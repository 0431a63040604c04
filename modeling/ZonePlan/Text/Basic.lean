/-
Texts.

A text is a sequence of code points.  Nearly always they are those of characters, but an
escape in JSON may leave half of a surrogate pair alone, and such a half goes wherever its
text goes: into names, into messages and into the order of names.  Only where characters are
needed is a text that holds one refused.
-/
namespace ZonePlan

/-- A sequence of code points. -/
structure Text where
  codes : List Nat
deriving DecidableEq, Inhabited, Repr

namespace Text

/-- Whether a code point is half of a surrogate pair. -/
def isSurrogate (code : Nat) : Bool := 0xd800 ≤ code && code ≤ 0xdfff

/-! ### Texts and characters -/

/-- The text of characters. -/
def ofChars (s : List Char) : Text := ⟨s.map Char.toNat⟩

/-- The text of a string. -/
def ofString (s : String) : Text := ofChars s.toList

instance : Coe String Text := ⟨ofString⟩

/-- Whether half of a surrogate pair stands in a text. -/
def isBroken (t : Text) : Bool := t.codes.any isSurrogate

/-- The characters of a text, if it consists of characters. -/
def chars? (t : Text) : Option (List Char) :=
  if t.isBroken then none else some (t.codes.map Char.ofNat)

/-- The string of a text, if it consists of characters. -/
def string? (t : Text) : Option String := t.chars?.map String.ofList

theorem not_isSurrogate_toNat (c : Char) : isSurrogate c.toNat = false := by
  have h : (c.toNat < 0xd800 ∨ 0xdfff < c.toNat ∧ c.toNat < 0x110000) := c.valid
  unfold isSurrogate
  rw [Bool.and_eq_false_iff, decide_eq_false_iff_not, decide_eq_false_iff_not]
  omega

/-- The text of characters consists of just these. -/
theorem chars?_ofChars (s : List Char) : (ofChars s).chars? = some s := by
  have hwhole : (ofChars s).isBroken = false := by
    simp [isBroken, ofChars, not_isSurrogate_toNat]
  have hchars : (s.map Char.toNat).map Char.ofNat = s := by
    simp [Function.comp_def, Char.ofNat_toNat]
  rw [chars?, hwhole, if_neg Bool.false_ne_true, ofChars, hchars]

/-! ### Putting texts together -/

instance : Append Text := ⟨fun s t => ⟨s.codes ++ t.codes⟩⟩

/-- How many code points a text has. -/
def length (t : Text) : Nat := t.codes.length

/-- The text of texts one behind the other, with something between every two. -/
def join (between : Text) : List Text → Text
  | [] => ""
  | [t] => t
  | t :: rest => t ++ between ++ join between rest

/-! ### Order -/

/-- Whether one sequence of code points does not come after another: the first place where
they differ decides, and a beginning comes before the whole. -/
def notAfterCodes : List Nat → List Nat → Bool
  | [], _ => true
  | _ :: _, [] => false
  | a :: s, b :: t => a < b || (a == b && notAfterCodes s t)

/-- Whether one text does not come after another. -/
def notAfter (s t : Text) : Bool := notAfterCodes s.codes t.codes

theorem notAfterCodes_total (s t : List Nat) : notAfterCodes s t || notAfterCodes t s := by
  induction s generalizing t with
  | nil => rfl
  | cons a s ih =>
    cases t with
    | nil => rfl
    | cons b t =>
      have hrest := ih t
      simp only [notAfterCodes, Bool.or_eq_true, Bool.and_eq_true, decide_eq_true_eq,
        beq_iff_eq] at hrest ⊢
      rcases Nat.lt_trichotomy a b with h | h | h
      · exact .inl (.inl h)
      · rcases hrest with hrest | hrest
        · exact .inl (.inr ⟨h, hrest⟩)
        · exact .inr (.inr ⟨h.symm, hrest⟩)
      · exact .inr (.inl h)

theorem notAfterCodes_trans {s t u : List Nat} (h : notAfterCodes s t = true)
    (h' : notAfterCodes t u = true) : notAfterCodes s u = true := by
  induction s generalizing t u with
  | nil => rfl
  | cons a s ih =>
    cases t with
    | nil => simp [notAfterCodes] at h
    | cons b t =>
      cases u with
      | nil => simp [notAfterCodes] at h'
      | cons c u =>
        simp only [notAfterCodes, Bool.or_eq_true, Bool.and_eq_true, decide_eq_true_eq,
          beq_iff_eq] at h h' ⊢
        rcases h with h | ⟨rfl, h⟩
        · rcases h' with h' | ⟨rfl, -⟩
          · exact .inl (Nat.lt_trans h h')
          · exact .inl h
        · rcases h' with h' | ⟨rfl, h'⟩
          · exact .inl h'
          · exact .inr ⟨rfl, ih h h'⟩

theorem notAfter_total (s t : Text) : s.notAfter t || t.notAfter s :=
  notAfterCodes_total s.codes t.codes

theorem notAfter_trans {s t u : Text} (h : s.notAfter t = true) (h' : t.notAfter u = true) :
    s.notAfter u = true := notAfterCodes_trans h h'

theorem notAfter_refl (s : Text) : s.notAfter s = true := by
  simpa using notAfter_total s s

end Text
end ZonePlan
