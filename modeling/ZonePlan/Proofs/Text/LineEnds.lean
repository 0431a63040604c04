/-
Line ends of one kind.

Unifying the line ends of a text changes nothing but its carriage returns: each becomes a line feed,
or goes where a line feed follows it.
-/
import ZonePlan.Text.LineEnds

namespace ZonePlan.Text

theorem unifyLineEnds_cons {c : Char} (h : c ≠ '\r') (s : List Char) :
    unifyLineEnds (c :: s) = c :: unifyLineEnds s := by
  rw [unifyLineEnds]
  · exact fun _ hc _ => h hc
  · exact h

/-- A carriage return becomes a line feed, whatever follows it. -/
theorem exists_unifyLineEnds_return (s : List Char) :
    ∃ rest, unifyLineEnds ('\r' :: s) = '\n' :: rest := by
  by_cases h : ∃ rest, s = '\n' :: rest
  · obtain ⟨rest, rfl⟩ := h
    exact ⟨_, rfl⟩
  · exact ⟨_, unifyLineEnds.eq_3 s fun rest hrest => h ⟨rest, hrest⟩⟩

theorem exists_cons_of_unifyLineEnds (c : Char) (s : List Char) :
    ∃ c' rest, unifyLineEnds (c :: s) = c' :: rest := by
  by_cases hc : c = '\r'
  · subst hc
    exact ⟨_, exists_unifyLineEnds_return s⟩
  · exact ⟨_, _, unifyLineEnds_cons hc s⟩

end ZonePlan.Text
