/-
Blank characters, and text without them at its ends.

Two classes are in use.  `isSpace` is the White_Space property of Unicode.  `isBlank` adds
the four information separators U+001C to U+001F, which also separate fields of text.
Times and names are read without the blanks around them, numbers without the spaces.
-/
import ZonePlan.Text.Basic

namespace ZonePlan.Text

/-- The code points of the White_Space property. -/
def isSpaceCode (n : Nat) : Bool :=
  (0x09 ≤ n && n ≤ 0x0d) || n == 0x20 || n == 0x85 || n == 0xa0 || n == 0x1680 ||
    (0x2000 ≤ n && n ≤ 0x200a) || n == 0x2028 || n == 0x2029 || n == 0x202f || n == 0x205f ||
    n == 0x3000

/-- The code points of white space and of the information separators. -/
def isBlankCode (n : Nat) : Bool := isSpaceCode n || (0x1c ≤ n && n ≤ 0x1f)

/-- The White_Space property. -/
def isSpace (c : Char) : Bool := isSpaceCode c.toNat

/-- White space and the information separators. -/
def isBlank (c : Char) : Bool := isBlankCode c.toNat

/-- What is left when the members of a class are taken off both ends. -/
def trim {α : Type} (p : α → Bool) (s : List α) : List α :=
  ((s.dropWhile p).reverse.dropWhile p).reverse

/-- A text without the blanks around it. -/
def strip (t : Text) : Text := ⟨trim isBlankCode t.codes⟩

end ZonePlan.Text
