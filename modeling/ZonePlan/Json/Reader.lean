/-
Reading JSON.

The reader works on characters and hands on what it has not consumed, so a fault is placed
by the number of characters that were left.  Two dialects are read.  The lenient one, used
for files, takes escapes that leave a surrogate alone, and can nest deeply.  The strict one,
used for documents given as text, refuses lone surrogates, and nests at most 200 containers
that hold something.  Both keep each name of an object once, with the last of its values, and
take the three numbers that JSON has no notation for.

The recursion runs on a fuel that the length of the text bounds: every two calls consume
a character.
-/
import ZonePlan.Json.Value
import ZonePlan.Text.Digit

namespace ZonePlan.Json

/-! ### Dialects and faults -/

/-- What a reader admits. -/
structure Dialect where
  /-- Whether an escape may leave a surrogate alone. -/
  loneSurrogates : Bool
  /-- Whether the limit on the digits of whole numbers holds for fractions as well. -/
  limitsFractions : Bool
  /-- How many containers may be nested. -/
  depth : Nat
  /-- Whether a container that holds nothing counts among them. -/
  countsEmpty : Bool

/-- The dialect of files. -/
def Dialect.lenient : Dialect := ⟨true, false, 990, true⟩

/-- The dialect of documents given as text. -/
def Dialect.strict : Dialect := ⟨false, true, 200, false⟩

/-- The containers of values. -/
inductive Container where
  | array
  | object
deriving DecidableEq, Repr

/-- How messages name a container. -/
def Container.text : Container → String
  | .array => "array"
  | .object => "object"

/-- The most digits that a whole number may have. -/
def longestNumber : Nat := 4300

/-- Why a text is not JSON. -/
inductive Cause where
  | byteOrderMark
  | expectingValue
  | expectingName
  | expectingColon
  | expectingComma
  | extraData
  | unterminatedText
  | controlCharacter
  | invalidEscape
  | invalidUnicodeEscape
  | loneSurrogate
  /-- A container inside as many others as are read. -/
  | nestedTooDeep (container : Container)
  /-- A whole number with more digits than are read. -/
  | longNumber (digits : Nat)
deriving DecidableEq, Repr

/-- The wording of a cause. -/
def Cause.text : Cause → String
  | .byteOrderMark => "Unexpected UTF-8 BOM (decode using utf-8-sig)"
  | .expectingValue => "Expecting value"
  | .expectingName => "Expecting property name enclosed in double quotes"
  | .expectingColon => "Expecting ':' delimiter"
  | .expectingComma => "Expecting ',' delimiter"
  | .extraData => "Extra data"
  | .unterminatedText => "Unterminated string starting at"
  | .controlCharacter => "Invalid control character at"
  | .invalidEscape => "Invalid \\escape"
  | .invalidUnicodeEscape => "Invalid \\uXXXX escape"
  | .loneSurrogate => "Lone surrogate"
  | .nestedTooDeep container =>
    "maximum recursion depth exceeded while decoding a JSON " ++ container.text ++
      " from a unicode string"
  | .longNumber digits =>
    "Exceeds the limit (" ++ toString longestNumber ++
      " digits) for integer string conversion: value has " ++ toString digits ++
      " digits; use sys.set_int_max_str_digits() to increase the limit"

/-- A fault and the characters from its place on. -/
structure Stop where
  cause : Cause
  left : List Char

/-! ### Leaves -/

/-- The four characters between which JSON allows any number of blanks. -/
def isGap (c : Char) : Bool := c = ' ' || c = '\t' || c = '\n' || c = '\r'

/-- What follows the blanks at the front. -/
def skipGap (s : List Char) : List Char := s.dropWhile isGap

/-- The code point of four hexadecimal digits. -/
def hexCode? (a b c d : Char) : Option Nat := do
  let a ← Text.hexDigit? a
  let b ← Text.hexDigit? b
  let c ← Text.hexDigit? c
  let d ← Text.hexDigit? d
  return ((a * 16 + b) * 16 + c) * 16 + d

/-- The code point that a one-letter escape stands for. -/
def escaped? : Char → Option Nat
  | '"' => some 0x22
  | '\\' => some 0x5c
  | '/' => some 0x2f
  | 'b' => some 0x08
  | 'f' => some 0x0c
  | 'n' => some 0x0a
  | 'r' => some 0x0d
  | 't' => some 0x09
  | _ => none

/-- Whether a code point is the first half of a surrogate pair. -/
def isHighSurrogate (code : Nat) : Bool := 0xd800 ≤ code && code ≤ 0xdbff

/-- Whether a code point is the second half of a surrogate pair. -/
def isLowSurrogate (code : Nat) : Bool := 0xdc00 ≤ code && code ≤ 0xdfff

/-- The code point of a surrogate pair. -/
def joinSurrogates (high low : Nat) : Nat :=
  0x10000 + (high - 0xd800) * 0x400 + (low - 0xdc00)

/-- Reads the rest of a text after its opening quote, which is the first character of
`opening`.  An escape by code point must have a character after it. -/
def textCodes (dialect : Dialect) (opening : List Char) : List Char → Except Stop (List Nat × List Char)
  | [] => .error ⟨.unterminatedText, opening⟩
  | '"' :: rest => .ok ([], rest)
  | '\\' :: 'u' :: a :: b :: c :: d :: '\\' :: 'u' :: e :: f :: g :: h :: i :: rest =>
    let single (code : Nat) : Except Stop (List Nat × List Char) :=
      if Text.isSurrogate code && !dialect.loneSurrogates then
        .error ⟨.loneSurrogate, 'u' :: a :: b :: c :: d :: '\\' :: 'u' :: e :: f :: g :: h :: i :: rest⟩
      else
        (textCodes dialect opening ('\\' :: 'u' :: e :: f :: g :: h :: i :: rest)).map
          fun (codes, left) => (code :: codes, left)
    match hexCode? a b c d with
    | none => .error ⟨.invalidUnicodeEscape,
        'u' :: a :: b :: c :: d :: '\\' :: 'u' :: e :: f :: g :: h :: i :: rest⟩
    | some high =>
      match hexCode? e f g h with
      | none => single high
      | some low =>
        if isHighSurrogate high && isLowSurrogate low then
          (textCodes dialect opening (i :: rest)).map
            fun (codes, left) => (joinSurrogates high low :: codes, left)
        else single high
  | '\\' :: 'u' :: a :: b :: c :: d :: e :: rest =>
    match hexCode? a b c d with
    | none => .error ⟨.invalidUnicodeEscape, 'u' :: a :: b :: c :: d :: e :: rest⟩
    | some code =>
      if Text.isSurrogate code && !dialect.loneSurrogates then
        .error ⟨.loneSurrogate, 'u' :: a :: b :: c :: d :: e :: rest⟩
      else
        (textCodes dialect opening (e :: rest)).map fun (codes, left) => (code :: codes, left)
  | '\\' :: 'u' :: rest => .error ⟨.invalidUnicodeEscape, 'u' :: rest⟩
  | '\\' :: c :: rest =>
    match escaped? c with
    | none => .error ⟨.invalidEscape, '\\' :: c :: rest⟩
    | some code =>
      (textCodes dialect opening rest).map fun (codes, left) => (code :: codes, left)
  | '\\' :: [] => .error ⟨.unterminatedText, opening⟩
  | c :: rest =>
    if c.toNat < 0x20 then .error ⟨.controlCharacter, c :: rest⟩
    else (textCodes dialect opening rest).map fun (codes, left) => (c.toNat :: codes, left)

/-- Reads a text that starts with its opening quote. -/
def readText (dialect : Dialect) (s : List Char) : Except Stop (Text × List Char) :=
  (textCodes dialect s s.tail).map fun (codes, left) => (⟨codes⟩, left)

/-! ### Numbers -/

/-- The ASCII digits at the front, and the rest. -/
def takeDigits (s : List Char) : List Char × List Char :=
  (s.takeWhile Char.isDigit, s.dropWhile Char.isDigit)

/-- The number that ASCII digits write. -/
def digitsValue (digits : List Char) : Nat :=
  Text.ofDigits (digits.map fun c => c.toNat - 0x30)

/-- The digits of a fraction, if a point and a digit stand in front. -/
def takeFraction : List Char → Option (List Char) × List Char
  | '.' :: c :: rest =>
    if c.isDigit then
      let (digits, left) := takeDigits (c :: rest)
      (some digits, left)
    else (none, '.' :: c :: rest)
  | s => (none, s)

/-- An exponent, if a letter, perhaps a sign, and a digit stand in front. -/
def takeExponent (s : List Char) : Option Int × List Char :=
  match s with
  | [] => (none, s)
  | mark :: rest =>
    if mark = 'e' ∨ mark = 'E' then
      let (negative, rest) := match rest with
        | '-' :: rest => (true, rest)
        | '+' :: rest => (false, rest)
        | rest => (false, rest)
      match takeDigits rest with
      | ([], _) => (none, s)
      | (digits, left) =>
        let size : Int := digitsValue digits
        (some (if negative then -size else size), left)
    else (none, s)

/-- The whole digits of a number: a zero alone, or digits that do not start with one. -/
def takeWhole : List Char → List Char × List Char
  | '0' :: rest => (['0'], rest)
  | s => takeDigits s

/-- Reads a number. -/
def readNumber (dialect : Dialect) (s : List Char) : Except Stop (Value × List Char) :=
  let (negative, unsigned) := match s with
    | '-' :: rest => (true, rest)
    | _ => (false, s)
  match takeWhole unsigned with
  | ([], _) => .error ⟨.expectingValue, s⟩
  | (whole, afterWhole) =>
    let (fraction, afterFraction) := takeFraction afterWhole
    let (exponent, left) := takeExponent afterFraction
    let isWhole := fraction.isNone && exponent.isNone
    if longestNumber < whole.length && (isWhole || dialect.limitsFractions) then
      .error ⟨.longNumber whole.length, s⟩
    else if isWhole then
      let size : Int := digitsValue whole
      .ok (.int (if negative then -size else size), left)
    else
      let places := fraction.getD []
      let exponent := exponent.getD 0 - places.length
      .ok (.float (.ofDecimal negative (digitsValue (whole ++ places)) exponent), left)

/-! ### Values -/

/-- What the words of JSON stand for. -/
def words : List (String × Value) :=
  [("null", .null), ("true", .bool true), ("false", .bool false), ("NaN", .float .nan),
    ("Infinity", .float (.infinite false)), ("-Infinity", .float (.infinite true))]

/-- Reads a word, if one stands in front. -/
def readWord? (s : List Char) : Option (Value × List Char) :=
  words.findSome? fun (word, value) =>
    if word.toList.isPrefixOf s then some (value, s.drop word.length) else none

/-- Enters a container, whose first character is the first of `opening`. -/
def Dialect.enter (dialect : Dialect) (container : Container) (isEmpty : Bool)
    (opening : List Char) : Except Stop Dialect :=
  match dialect.depth with
  | depth + 1 => .ok { dialect with depth }
  | 0 =>
    if isEmpty && !dialect.countsEmpty then .ok dialect
    else .error ⟨.nestedTooDeep container, opening⟩

mutual

/-- Reads a value that starts at once. -/
def readValue (dialect : Dialect) : (fuel : Nat) → List Char → Except Stop (Value × List Char)
  | 0, s => .error ⟨.expectingValue, s⟩
  | fuel + 1, s =>
    match s with
    | '"' :: _ => (readText dialect s).map fun (t, left) => (.text t, left)
    | '[' :: rest => do
      let inner := skipGap rest
      let dialect ← dialect.enter .array (inner.head? = some ']') s
      match inner with
      | ']' :: left => return (.array [], left)
      | inner =>
        let (items, left) ← readItems dialect fuel inner
        return (.array items, left)
    | '\x7b' :: rest => do
      let inner := skipGap rest
      let dialect ← dialect.enter .object (inner.head? = some '\x7d') s
      match inner with
      | '\x7d' :: left => return (.object [], left)
      | inner =>
        let (fields, left) ← readFields dialect fuel inner
        return (.object (mergeRepeated fields), left)
    | _ =>
      match readWord? s with
      | some read => .ok read
      | none => readNumber dialect s

/-- Reads the items of an array, up to its closing bracket. -/
def readItems (dialect : Dialect) : (fuel : Nat) → List Char →
    Except Stop (List Value × List Char)
  | 0, s => .error ⟨.expectingValue, s⟩
  | fuel + 1, s => do
    let (item, left) ← readValue dialect fuel s
    match skipGap left with
    | ']' :: left => return ([item], left)
    | ',' :: left =>
      let (items, left) ← readItems dialect fuel (skipGap left)
      return (item :: items, left)
    | left => .error ⟨.expectingComma, left⟩

/-- Reads the fields of an object, up to its closing brace. -/
def readFields (dialect : Dialect) : (fuel : Nat) → List Char →
    Except Stop (List (Text × Value) × List Char)
  | 0, s => .error ⟨.expectingValue, s⟩
  | fuel + 1, s =>
    match s with
    | '"' :: _ => do
      let (name, left) ← readText dialect s
      match skipGap left with
      | ':' :: left =>
        let (value, left) ← readValue dialect fuel (skipGap left)
        match skipGap left with
        | '\x7d' :: left => return ([(name, value)], left)
        | ',' :: left =>
          let (fields, left) ← readFields dialect fuel (skipGap left)
          return ((name, value) :: fields, left)
        | left => .error ⟨.expectingComma, left⟩
      | left => .error ⟨.expectingColon, left⟩
    | _ => .error ⟨.expectingName, s⟩

end

/-- A fault with the number of characters before it. -/
structure Fault where
  cause : Cause
  offset : Nat
deriving DecidableEq, Repr

/-- The value that a whole text denotes. -/
def read (dialect : Dialect) (s : List Char) : Except Fault Value :=
  let outcome : Except Stop Value :=
    match s with
    | '\ufeff' :: _ => .error ⟨.byteOrderMark, s⟩
    | _ => do
      let (value, left) ← readValue dialect (2 * s.length + 2) (skipGap s)
      match skipGap left with
      | [] => return value
      | left => .error ⟨.extraData, left⟩
  outcome.mapError fun stop => ⟨stop.cause, s.length - stop.left.length⟩

/-- A fault as a reader of the text finds it: by line and column as well. -/
structure Located extends Fault where
  line : Nat
  column : Nat
deriving DecidableEq, Repr

/-- The line and the column of a fault in a text, both counted from 1. -/
def Fault.locate (f : Fault) (s : List Char) : Located :=
  let before := s.take f.offset
  { f with
    line := before.count '\n' + 1
    column := (before.reverse.takeWhile (· ≠ '\n')).length + 1 }

/-- The wording of a fault: the cause, then the line, the column and the offset of its place. -/
def Located.text (f : Located) : String :=
  f.cause.text ++ ": line " ++ toString f.line ++ " column " ++ toString f.column ++
    " (char " ++ toString f.offset ++ ")"

end ZonePlan.Json
