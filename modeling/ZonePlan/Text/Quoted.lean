/-
Text in quotes, so that every character of it can be seen.

Single quotes are used unless the text has one and no double quote.  Inside, the quote in
use and the backslash are escaped, the tabulator and the two line ends have their letters,
and any other code point that is not printable, half of a surrogate pair among them, is
written by its number.
-/
import ZonePlan.Text.Basic
import ZonePlan.Text.Printable

namespace ZonePlan.Text

/-- A number in lower-case hexadecimal, padded with zeros to a width. -/
def hexText (width n : Nat) : List Char :=
  let digits := Nat.toDigits 16 n
  List.replicate (width - digits.length) '0' ++ digits

/-- The quote that surrounds a text. -/
def quoteFor (codes : List Nat) : Char :=
  if codes.contains '\''.toNat && !codes.contains '"'.toNat then '"' else '\''

/-- A code point by its number. -/
def codeEscape (code : Nat) : List Char :=
  if code ≤ 0xff then '\\' :: 'x' :: hexText 2 code
  else if code ≤ 0xffff then '\\' :: 'u' :: hexText 4 code
  else '\\' :: 'U' :: hexText 8 code

/-- One code point inside the given quotes. -/
def quoteCode (quote : Char) (code : Nat) : List Char :=
  let c := Char.ofNat code
  if isSurrogate code then codeEscape code
  else if c = quote ∨ c = '\\' then ['\\', c]
  else if c = '\t' then ['\\', 't']
  else if c = '\n' then ['\\', 'n']
  else if c = '\r' then ['\\', 'r']
  else if isPrintable c then [c]
  else codeEscape code

/-- A text in quotes. -/
def quoted (t : Text) : String :=
  let quote := quoteFor t.codes
  String.ofList (quote :: t.codes.flatMap (quoteCode quote) ++ [quote])

end ZonePlan.Text
