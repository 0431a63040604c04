/-
The period in force at a moment.

Of the periods that cover the moment the one that sorts last is in force: later starts
override earlier ones, and at equal starts the narrower window overrides the broader one.
Of periods that sort alike the last one counts.
-/
import ZonePlan.Period.Basic

namespace ZonePlan.Period

/-- What is in force after one more period: it takes over if it covers the moment and does
not sort before the one in force so far. -/
def override (m : Calendar.Moment) (best : Option Period) (p : Period) : Option Period :=
  if p.covers m then
    match best with
    | none => some p
    | some b => if p.precedes b then some b else some p
  else best

/-- The period in force at a moment. -/
def inForce (periods : List Period) (m : Calendar.Moment) : Option Period :=
  periods.foldl (override m) none

/-- The period in force at what is given for a moment.  Where there are no periods nothing
is asked of it. -/
def inForceAt (ahead : Int) (periods : List Period) (w : When) : Except Failure (Option Period) :=
  if periods.isEmpty then .ok none else (w.toMoment ahead).map (inForce periods)

/-- The place of the last of the periods that equals a given one. -/
def lastPlace? (periods : List Period) (p : Period) : Option Nat :=
  (periods.zipIdx.reverse.find? fun (q, _) => q = p).map (·.2)

/-! ### What is in force is one of the periods, and covers the moment -/

theorem override_mem {m : Calendar.Moment} {best : Option Period} {p q : Period}
    (h : override m best p = some q) : some q = best ∨ q = p ∧ p.covers m = true := by
  unfold override at h
  split at h
  · rename_i hcovers
    split at h
    · exact .inr ⟨(Option.some.inj h).symm, hcovers⟩
    · split at h
      · exact .inl h.symm
      · exact .inr ⟨(Option.some.inj h).symm, hcovers⟩
  · exact .inl h.symm

theorem foldl_override_mem {m : Calendar.Moment} {q : Period} {periods : List Period} :
    ∀ {best : Option Period}, periods.foldl (override m) best = some q →
      some q = best ∨ q ∈ periods ∧ q.covers m = true := by
  induction periods with
  | nil => exact fun h => .inl h.symm
  | cons p rest ih =>
    intro best h
    rcases ih h with hbest | ⟨hmem, hcovers⟩
    · rcases override_mem hbest.symm with hb | ⟨rfl, hcovers⟩
      · exact .inl hb
      · exact .inr ⟨List.mem_cons_self, hcovers⟩
    · exact .inr ⟨List.mem_cons_of_mem _ hmem, hcovers⟩

theorem mem_of_inForce {m : Calendar.Moment} {q : Period} {periods : List Period}
    (h : inForce periods m = some q) : q ∈ periods ∧ q.covers m = true :=
  (foldl_override_mem h).resolve_left (by simp)

end ZonePlan.Period
