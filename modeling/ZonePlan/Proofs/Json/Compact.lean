/-
JSON text without blanks.

A text that is put together without blanks is written as its parts are, one rule for each of them:
there is nothing to skip between two of them.
-/
import ZonePlan.Proofs.Json.Grammar

namespace ZonePlan.Json

/-- A text between quotes, and what follows. -/
def quoted (t : String) (left : List Char) : List Char := '"' :: (t.toList ++ '"' :: left)

/-- Whether characters stand between quotes as they are. -/
def isVerbatim (t : String) : Bool :=
  t.toList.all fun c => c ≠ '"' && c ≠ '\\' && 0x20 ≤ c.toNat

theorem quotes_of_isVerbatim {lone : Bool} {t : String} (h : isVerbatim t = true)
    (left : List Char) : Quotes lone (t.toList ++ '"' :: left) (Text.ofString t).codes left := by
  unfold isVerbatim at h
  unfold Text.ofString Text.ofChars
  generalize t.toList = chars at h ⊢
  induction chars with
  | nil => exact .close
  | cons c rest ih =>
    rw [List.all_cons, Bool.and_eq_true] at h
    obtain ⟨⟨hquote, hslash⟩, hcontrol⟩ : (c ≠ '"' ∧ c ≠ '\\') ∧ 0x20 ≤ c.toNat := by
      simpa using h.1
    exact .character hquote hslash (Nat.not_lt.2 hcontrol) (ih h.2)

section

variable {join : List (Text × Value) → List (Text × Value)} {dialect : Dialect}
  {left rest : List Char} {t : String} {v : Value}

theorem skipGap_quoted (t : String) (left : List Char) : skipGap (quoted t left) = quoted t left :=
  rfl

theorem writes_quoted (h : isVerbatim t = true) (left : List Char) :
    Writes join dialect (quoted t left) (.value (.str t)) left :=
  .text (quotes_of_isVerbatim h left)

theorem writes_lastField (h : isVerbatim t = true) (hrest : skipGap rest = rest)
    (hv : Writes join dialect rest (.value v) ('\x7d' :: left)) :
    Writes join dialect (quoted t (':' :: rest)) (.fields [(t, v)]) left :=
  .lastField (.field (quotes_of_isVerbatim h _) rfl (hrest.symm ▸ hv)) rfl

theorem writes_moreFields {t' : String} {next : List Char} {fs : List (Text × Value)}
    (h : isVerbatim t = true) (hrest : skipGap rest = rest)
    (hv : Writes join dialect rest (.value v) (',' :: quoted t' next))
    (hmore : Writes join dialect (quoted t' next) (.fields fs) left) :
    Writes join dialect (quoted t (':' :: rest)) (.fields ((t, v) :: fs)) left :=
  .moreFields (.field (quotes_of_isVerbatim h _) rfl (hrest.symm ▸ hv)) rfl
    (skipGap_quoted t' next ▸ hmore)

theorem writes_object {fs : List (Text × Value)} (hdepth : 0 < dialect.depth)
    (h : Writes join dialect.inside (quoted t rest) (.fields fs) left) :
    Writes join dialect ('\x7b' :: quoted t rest) (.value (.object (join fs))) left := by
  refine .object ?_ hdepth (skipGap_quoted t rest ▸ h)
  rw [skipGap_quoted]
  exact nofun

theorem writes_array (hdepth : 0 < dialect.depth)
    (h : Writes join dialect.inside ('\x7b' :: rest) (.value v) (']' :: left)) :
    Writes join dialect ('[' :: '\x7b' :: rest) (.value (.array [v])) left := by
  have hgap : skipGap ('\x7b' :: rest) = '\x7b' :: rest := rfl
  refine .array ?_ hdepth (.lastItem (hgap.symm ▸ h) rfl)
  rw [hgap]
  exact nofun

end

end ZonePlan.Json
