/-
Numbers in text.

A number may have spaces around it and single underscores between its digits.  A whole
number may also have zeros in front, and behind them a minus sign, and places behind a point
that are all zero.  The two readers are those of fields: what they refuse is no number there,
even where it is one elsewhere.
-/
import ZonePlan.Json.Reader
import ZonePlan.Text.Blank

namespace ZonePlan.Number

/-! ### Underscores -/

/-- The text without its underscores, of which none may stand at an end or beside another. -/
def withoutUnderscores? (s : List Char) : Option (List Char) :=
  if s.head? = some '_' ∨ s.getLast? = some '_' ∨ (s.zip s.tail).contains ('_', '_') then none
  else some (s.filter (· ≠ '_'))

/-! ### Numbers of any kind -/

/-- The words that stand for numbers without digits. -/
def word? (negative : Bool) (s : List Char) : Option Double :=
  let small := s.map Char.toLower
  if small = ['n', 'a', 'n'] then some .nan
  else if small = ['i', 'n', 'f'] ∨ small = ['i', 'n', 'f', 'i', 'n', 'i', 't', 'y'] then
    some (.infinite negative)
  else none

/-- A decimal without a sign: digits, a point among or at the end of them if there is one, and
perhaps an exponent. -/
def decimal? (negative : Bool) (s : List Char) : Option Double :=
  let (whole, afterWhole) := Json.takeDigits s
  let (places, afterPlaces) := match afterWhole with
    | '.' :: rest => Json.takeDigits rest
    | rest => ([], rest)
  if whole.isEmpty && places.isEmpty then none
  else
    let digits := Json.digitsValue (whole ++ places)
    match afterPlaces, Json.takeExponent afterPlaces with
    | [], _ => some (.ofDecimal negative digits (-places.length))
    | _, (some exponent, []) => some (.ofDecimal negative digits (exponent - places.length))
    | _, _ => none

/-- The double that a text without spaces writes. -/
def plainDouble? (s : List Char) : Option Double :=
  let (negative, size) := match s with
    | '-' :: rest => (true, rest)
    | '+' :: rest => (false, rest)
    | rest => (false, rest)
  (word? negative size).or (decimal? negative size)

/-- The double that a text writes: with spaces around it, or else with underscores. -/
def double? (s : List Char) : Option Double :=
  (plainDouble? (Text.trim Text.isSpace s)).or ((withoutUnderscores? s).bind plainDouble?)

/-! ### Whole numbers -/

/-- Whether a character is one of the digits from 1 to 9. -/
def isNonzeroDigit (c : Char) : Bool := c.isDigit && c != '0'

/-- The rest of a whole number behind a zero: further zeros and underscores are skipped, up to
a digit or a minus sign, but the last of them stays in front of a point or at the end. -/
def afterZeros (last : Char) : List Char → Option (List Char)
  | [] => some [last]
  | c :: rest =>
    if c = '0' ∨ c = '_' then afterZeros c rest
    else if isNonzeroDigit c ∨ c = '-' then some (c :: rest)
    else if c = '.' then some (last :: '.' :: rest)
    else none

/-- A text, which starts with a digit, without the zeros in front. -/
def withoutZeros? : List Char → Option (List Char)
  | [] => none
  | c :: rest =>
    if c = '0' then afterZeros '0' rest
    else if isNonzeroDigit c then some (c :: rest)
    else none

/-- A text without the places behind its point, when there are some and all are zero. -/
def withoutPlaces (s : List Char) : List Char :=
  match s.dropWhile (· ≠ '.') with
  | '.' :: c :: places => if (c :: places).all (· = '0') then s.takeWhile (· ≠ '.') else s
  | _ => s

/-- The minus sign at the front of a text, if it is there, and what follows. -/
def takeMinus : List Char → Bool × List Char
  | '-' :: rest => (true, rest)
  | s => (false, s)

/-- The digits of a whole number at the front of a text; none has a zero before it. -/
def wholeDigits (s : List Char) : List Char :=
  let digits := s.takeWhile Char.isDigit
  if digits.head? = some '0' && digits.length != 1 then [] else digits

/-- The whole number that a text writes in plain notation: perhaps a minus sign, and digits
without a zero in front, no more than are read. -/
def plainWhole? (s : List Char) : Option Int :=
  let (negative, size) := takeMinus s
  let digits := wholeDigits size
  if digits.isEmpty || digits.length != size.length || Json.longestNumber < digits.length then none
  else
    let n : Int := Json.digitsValue digits
    some (if negative then -n else n)

/-- The plain notation of a whole number: no spaces around it, no plus sign, no zeros in front,
no places that are zero, and no underscores. -/
def plainNotation? (s : List Char) : Option (List Char) := do
  let s := Text.trim Text.isSpace s
  let (negative, size) := match s with
    | '-' :: rest => (true, rest)
    | '+' :: rest => (false, rest)
    | rest => (false, rest)
  let digits ← withoutUnderscores? (withoutPlaces (← withoutZeros? size))
  return if negative then '-' :: digits else digits

/-- What a text is for the reader of whole numbers. -/
inductive Whole where
  | number (n : Int)
  | tooLong
  | none
deriving DecidableEq, Repr

/-- The whole number that a text writes.  A text that starts with more digits than are read is
too long, whatever follows; one in which they are found only behind something else is no
number. -/
def whole (s : List Char) : Whole :=
  if Json.longestNumber < (wholeDigits (takeMinus s).2).length then .tooLong
  else match (plainNotation? s).bind plainWhole? with
    | some n => .number n
    | .none => .none

end ZonePlan.Number
