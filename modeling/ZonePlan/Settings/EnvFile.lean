/-
Environment files.

A line of an environment file binds a name to a value: `NAME=value`, perhaps after `export`.
A value may stand in quotes, and then may go on over several lines; without quotes it ends
at a comment or at the end of its line.  A name without `=` is bound to nothing.  A line
that cannot be read is left out.  A value may refer to names by `$` and braces.

All readers take the characters that are left and hand on what they have not consumed.
Line ends are line feeds.
-/
import ZonePlan.Text.Blank
import ZonePlan.Text.LineEnds

namespace ZonePlan.EnvFile

/-! ### Lines -/

/-- Blanks within a line. -/
def isInline (c : Char) : Bool := Text.isBlank c && c != '\n'

/-- What follows the blanks within a line. -/
def skipInline (s : List Char) : List Char := s.dropWhile isInline

/-- What follows the rest of a line. -/
def restOfLine (s : List Char) : List Char := (s.dropWhile (· ≠ '\n')).drop 1

/-- What follows a comment, if there is one. -/
def skipComment (s : List Char) : List Char :=
  match skipInline s with
  | '#' :: rest => rest.dropWhile (· ≠ '\n')
  | _ => s

/-- What follows the end of a line. -/
def endOfLine? (s : List Char) : Option (List Char) :=
  match skipInline s with
  | [] => some []
  | '\n' :: rest => some rest
  | _ => none

/-! ### Names -/

/-- What follows the word `export` and the blanks behind it, if they are there. -/
def skipExport (s : List Char) : List Char :=
  let word := "export".toList
  if word.isPrefixOf s then
    match s.drop word.length with
    | c :: rest => if isInline c then skipInline rest else s
    | [] => s
  else s

/-- Whether a character can stand in a name without quotes. -/
def isNameChar (c : Char) : Bool := c != '=' && c != '#' && !Text.isBlank c

/-- A name, or none in front of a comment. -/
def readName : List Char → Option (Option (List Char) × List Char)
  | '#' :: rest => some (none, '#' :: rest)
  | '\'' :: rest =>
    match rest.takeWhile (· ≠ '\''), rest.dropWhile (· ≠ '\'') with
    | c :: name, _ :: left => some (some (c :: name), left)
    | _, _ => none
  | s =>
    match s.takeWhile isNameChar with
    | [] => none
    | name => some (some name, s.dropWhile isNameChar)

/-! ### Values -/

/-- What stands before the closing quote, and what follows that quote.  A quote with a backslash
in front of it does not close, and a backslash with one in front of it stands for itself. -/
def toClosingQuote (quote : Char) : List Char → Option (List Char × List Char)
  | [] => none
  | ['\\'] => none
  | '\\' :: c :: rest =>
    (toClosingQuote quote rest).map fun (inner, left) => ('\\' :: c :: inner, left)
  | c :: rest =>
    if c = quote then some ([], rest)
    else (toClosingQuote quote rest).map fun (inner, left) => (c :: inner, left)

/-- Replaces the escapes of the given letters. -/
def unescape (letters : List (Char × Char)) : List Char → List Char
  | [] => []
  | '\\' :: c :: rest =>
    match letters.lookup c with
    | some d => d :: unescape letters rest
    | none => '\\' :: unescape letters (c :: rest)
  | c :: rest => c :: unescape letters rest

/-- The escapes between single quotes. -/
def singleEscapes : List (Char × Char) := [('\\', '\\'), ('\'', '\'')]

/-- The escapes between double quotes. -/
def doubleEscapes : List (Char × Char) :=
  [('\\', '\\'), ('\'', '\''), ('"', '"'), ('a', '\x07'), ('b', '\x08'), ('f', '\x0c'),
    ('n', '\n'), ('r', '\r'), ('t', '\t'), ('v', '\x0b')]

/-- Reads a value behind its opening quote. -/
def readQuoted (quote : Char) (letters : List (Char × Char)) (s : List Char) :
    Option (List Char × List Char) :=
  (toClosingQuote quote s).map fun (inner, left) => (unescape letters inner, left)

/-- The part of a value without quotes that stands before a comment. -/
def beforeComment : List Char → List Char
  | [] => []
  | c :: rest =>
    if Text.isBlank c && (rest.dropWhile Text.isBlank).head? == some '#' then []
    else c :: beforeComment rest

/-- Reads a value behind its equals sign.  Without quotes a comment may follow at once, but not
without a blank before it. -/
def readValue (s : List Char) : Option (List Char × List Char) :=
  match skipInline s with
  | '\'' :: rest => readQuoted '\'' singleEscapes rest
  | '"' :: rest => readQuoted '"' doubleEscapes rest
  | _ =>
    let part := beforeComment (s.takeWhile (· ≠ '\n'))
    some (Text.trim Text.isBlank part, s.dropWhile (· ≠ '\n'))

/-! ### Bindings -/

/-- A name and the value that it is bound to, if it is bound to one. -/
abbrev Binding := String × Option String

/-- Reads the end of the line behind a binding. -/
def finishLine (binding : Option Binding) (s : List Char) : Option Binding × List Char :=
  let s := skipComment s
  match endOfLine? s with
  | some left => (binding, left)
  | none => (none, restOfLine s)

/-- Reads what a binding binds its name to. -/
def readBound (name : Option (List Char)) (s : List Char) : Option Binding × List Char :=
  match s with
  | '=' :: rest =>
    match readValue rest with
    | some (value, left) =>
      finishLine (name.map fun name => (String.ofList name, some (String.ofList value))) left
    | none => (none, restOfLine rest)
  | s => finishLine (name.map fun name => (String.ofList name, none)) s

/-- Reads one binding, with the blank lines before it. -/
def readBinding (s : List Char) : Option Binding × List Char :=
  match s.dropWhile Text.isBlank with
  | [] => (none, [])
  | s =>
    let s := skipExport s
    match readName s with
    | some (name, left) => readBound name (skipInline left)
    | none => (none, restOfLine s)

/-- Reads bindings; each of them takes at least one character. -/
def readBindings : (fuel : Nat) → List Char → List Binding
  | 0, _ => []
  | _, [] => []
  | fuel + 1, s =>
    let (binding, left) := readBinding s
    binding.toList ++ readBindings fuel left

/-- The characters of a file without the byte order mark that may stand in front of them. -/
def withoutMark : List Char → List Char
  | '\ufeff' :: rest => rest
  | s => s

/-- The bindings of a file as they are written. -/
def bindings (s : String) : List Binding :=
  let chars := Text.unifyLineEnds (withoutMark s.toList)
  readBindings chars.length chars

/-! ### References -/

/-- Reads a reference behind `$` and its opening brace: a name, and perhaps `:-` and what
stands for a name without a value. -/
def readReference (s : List Char) : Option (String × String × List Char) :=
  let isNamePart (c : Char) : Bool := c != '\x7d' && c != ':'
  let name := String.ofList (s.takeWhile isNamePart)
  match s.dropWhile isNamePart with
  | '\x7d' :: left => some (name, "", left)
  | ':' :: '-' :: rest =>
    match rest.dropWhile (· ≠ '\x7d') with
    | _ :: left => some (name, String.ofList (rest.takeWhile (· ≠ '\x7d')), left)
    | [] => none
  | _ => none

/-- Replaces the references in a value; each of them takes at least one character. -/
def expand (value? : String → Option (Option String)) : (fuel : Nat) → List Char → List Char
  | 0, s => s
  | _, [] => []
  | fuel + 1, c :: rest =>
    let plain := c :: expand value? fuel rest
    match c, rest with
    | '$', '\x7b' :: inner =>
      match readReference inner with
      | some (name, default, left) =>
        let value := match value? name with
          | some value => value.getD ""
          | none => default
        value.toList ++ expand value? fuel left
      | none => plain
    | _, _ => plain

/-- The bindings of a file with their references replaced.  A name refers to what the file
binds it to before, and else to a variable of the environment. -/
def values (environment : List (String × String)) (s : String) : List Binding :=
  (bindings s).foldl (fun bound (name, value) =>
    let value? (name : String) : Option (Option String) :=
      ((bound.reverse.lookup name)).or ((environment.reverse.lookup name).map some)
    let value := value.map fun text =>
      String.ofList (expand value? text.length text.toList)
    bound ++ [(name, value)]) []

end ZonePlan.EnvFile
