/-
JSON text with line ends of any kind.

Lines end only where blanks may stand, and each of the characters that end a line is a blank.  So a
text with its line ends unified writes what it wrote before (`Writes.unifyLineEnds`), and a file may
end its lines as it likes.
-/
import ZonePlan.Proofs.Json.Grammar

namespace ZonePlan.Json

open Text (unifyLineEnds_cons exists_unifyLineEnds_return)

section

variable {join : List (Text × Value) → List (Text × Value)} {dialect : Dialect}
  {s left : List Char} {part : Part} {v : Value}

/-! ### Blanks and first characters -/

theorem skipGap_unifyLineEnds (s : List Char) :
    skipGap (Text.unifyLineEnds s) = Text.unifyLineEnds (skipGap s) := by
  fun_induction Text.unifyLineEnds s with
  | case1 => rfl
  | case2 rest ih => exact ih
  | case3 rest hrest ih => exact ih
  | case4 c rest hpair hc ih =>
    unfold skipGap at ih ⊢
    simp only [List.dropWhile_cons]
    split
    · exact ih
    · exact (unifyLineEnds_cons hc rest).symm

/-- A character that ends no line stands in front just if it stood there before. -/
theorem head?_unifyLineEnds {c : Char} (hreturn : c ≠ '\r') (hfeed : c ≠ '\n') (s : List Char) :
    (Text.unifyLineEnds s).head? = some c ↔ s.head? = some c := by
  rcases s with _ | ⟨first, rest⟩
  · rfl
  by_cases hfirst : first = '\r'
  · subst hfirst
    obtain ⟨rest', hrest'⟩ := exists_unifyLineEnds_return rest
    simp [hrest', hreturn.symm, hfeed.symm]
  · rw [unifyLineEnds_cons hfirst]
    rfl

/-- A separator stands behind blanks as it did before. -/
theorem separator_unifyLineEnds {c : Char} {next : List Char} (h : skipGap s = c :: next)
    (hc : c ≠ '\r') : skipGap (Text.unifyLineEnds s) = c :: Text.unifyLineEnds next := by
  rw [skipGap_unifyLineEnds, h, unifyLineEnds_cons hc]

theorem isOpening_unifyLineEnds (h : ∀ c ∈ s.head?, isOpening c = false) :
    ∀ c ∈ (Text.unifyLineEnds s).head?, isOpening c = false := by
  intro c hc
  by_cases hreturn : c = '\r'
  · rw [hreturn]
    rfl
  by_cases hfeed : c = '\n'
  · rw [hfeed]
    rfl
  exact h c ((head?_unifyLineEnds hreturn hfeed s).1 hc)

/-! ### Parts -/

/-- What is written does not depend on how lines end. -/
theorem Writes.unifyLineEnds (h : Writes join dialect s part left) :
    Writes join dialect (Text.unifyLineEnds s) part (Text.unifyLineEnds left) := by
  have hfull : ∀ {c : Char} {rest : List Char}, c ≠ '\r' → c ≠ '\n' →
      (skipGap rest).head? ≠ some c → (skipGap (Text.unifyLineEnds rest)).head? ≠ some c := by
    intro c rest hreturn hfeed hopen
    rwa [skipGap_unifyLineEnds, Ne, head?_unifyLineEnds hreturn hfeed]
  induction h with
  | text htext =>
    rw [unifyLineEnds_cons (by decide)]
    exact .text htext.unifyLineEnds
  | leaf hstart hleaf =>
    exact .leaf (isOpening_unifyLineEnds hstart) (readLeaf_unifyLineEnds hleaf)
  | emptyArray hclose hempty =>
    rw [unifyLineEnds_cons (by decide)]
    exact .emptyArray (separator_unifyLineEnds hclose (by decide)) hempty
  | array hopen hdepth _ ih =>
    rw [unifyLineEnds_cons (by decide)]
    exact .array (hfull (by decide) (by decide) hopen) hdepth (skipGap_unifyLineEnds _ ▸ ih)
  | emptyObject hclose hempty =>
    rw [unifyLineEnds_cons (by decide)]
    exact .emptyObject (separator_unifyLineEnds hclose (by decide)) hempty
  | object hopen hdepth _ ih =>
    rw [unifyLineEnds_cons (by decide)]
    exact .object (hfull (by decide) (by decide) hopen) hdepth (skipGap_unifyLineEnds _ ▸ ih)
  | lastItem _ hclose ih => exact .lastItem ih (separator_unifyLineEnds hclose (by decide))
  | moreItems _ hcomma _ ih ih' =>
    exact .moreItems ih (separator_unifyLineEnds hcomma (by decide))
      (skipGap_unifyLineEnds _ ▸ ih')
  | field hname hcolon _ ih =>
    rw [unifyLineEnds_cons (by decide)]
    exact .field hname.unifyLineEnds (separator_unifyLineEnds hcolon (by decide))
      (skipGap_unifyLineEnds _ ▸ ih)
  | lastField _ hclose ih => exact .lastField ih (separator_unifyLineEnds hclose (by decide))
  | moreFields _ hcomma _ ih ih' =>
    exact .moreFields ih (separator_unifyLineEnds hcomma (by decide))
      (skipGap_unifyLineEnds _ ▸ ih')

/-- **A text denotes the same value however its lines end.** -/
theorem Denotes.unifyLineEnds (h : Denotes join dialect s v) :
    Denotes join dialect (Text.unifyLineEnds s) v := by
  obtain ⟨hstart, left, hwrites, hend⟩ := h
  refine ⟨?_, Text.unifyLineEnds left, ?_, ?_⟩
  · rwa [Ne, head?_unifyLineEnds (by decide) (by decide)]
  · rw [skipGap_unifyLineEnds]
    exact hwrites.unifyLineEnds
  · rw [skipGap_unifyLineEnds, hend]
    rfl

end

end ZonePlan.Json
