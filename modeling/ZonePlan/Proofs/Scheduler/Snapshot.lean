/-
How far an execution gets in its snapshot.

An execution takes a snapshot of the schedule and visits its zones.  While a zone is told its
status anything may be done to the scheduler, and once that has replaced the schedule the
execution has nothing left to do but to note the zones that it skips.  So what it processes is
the part of the snapshot up to the first zone during whose telling the schedule was replaced,
and until then the tables of the snapshot are the ones in force.

The induction is over the visits, and what it carries is that the schedule was replaced so far
just if it was replaced while one of the zones visited so far was told (`replacedSince_visits`).
Everything else a visit does leaves the schedule alone (`Visits.replacedSince_eq`).
-/
import Mathlib.Data.Nat.Find
import ZonePlan.Proofs.Scheduler.Copies
import ZonePlan.Proofs.Scheduler.Visits

namespace ZonePlan

/-- What is in force is the period that matches, with what the table has for it. -/
theorem Table.inForceAt_eq_some {t : Table} {ahead : Int} {now : When} {period : Period}
    {status : Status} (h : t.inForceAt ahead now = .ok (some (period, status))) :
    Period.inForceAt ahead t.keys now = .ok (some period) ∧ t.get? period = some status := by
  unfold Table.inForceAt at h
  rcases hperiod : Period.inForceAt ahead t.keys now with cause | _ | p
  · simp [hperiod, Except.map] at h
  · simp [hperiod, Except.map] at h
  · rcases hstatus : t.get? p with _ | s
    · simp [hperiod, Except.map, Table.entry?, hstatus] at h
    · simp only [hperiod, Except.map, Table.entry?, hstatus, Option.bind_some, Option.map_some,
        Except.ok.injEq, Option.some.injEq, Prod.mk.injEq] at h
      obtain ⟨rfl, rfl⟩ := h
      exact ⟨rfl, hstatus⟩

namespace Scheduler

open Act

/-! ### The visits of an execution -/

/-- The world after the first so many visits of an execution. -/
def afterVisits (now : When) (w : World) (count : Nat) : World :=
  (visitAll (takeSteps take) now (w.scheduler.snapshot.take count) w).2

/-- Whether the schedule is replaced while a zone is told what is due when it is visited. -/
def replacedTelling (now : When) (entry : Zone × Copy) (w : World) : Bool :=
  match due? entry.1 entry.2.table now w with
  | some (period, status) =>
    replacedSince (searched entry.2.table now w)
      (tell (takeSteps take) entry.1 period status (searched entry.2.table now w)).2
  | none => false

/-- Whether the schedule is replaced while the zone at a place of the snapshot is told. -/
def replacedAt (now : When) (w : World) (place : Nat) : Bool :=
  w.scheduler.snapshot[place]?.any fun entry => replacedTelling now entry (afterVisits now w place)

theorem afterVisits_succ {now : When} {w : World} {k : Nat} {entry : Zone × Copy}
    (hk : w.scheduler.snapshot[k]? = some entry) :
    afterVisits now w (k + 1) = (visit (takeSteps take) now entry (afterVisits now w k)).2 := by
  rw [afterVisits, List.take_add_one, hk, Option.toList_some, visitAll_append, visitAll_cons]
  rfl

theorem afterVisits_since (now : When) (w : World) (count : Nat) :
    Since w (afterVisits now w count) :=
  .of_moves (visitAll_moves now _ w)

/-! ### What replaces the schedule -/

theorem searched_since (table : Table) (now : When) (w : World) :
    Since w (searched table now w) := by
  refine .of_events rfl ?_ rfl rfl
  unfold Table.searchEvents
  split <;> rfl

theorem searched_replaces (table : Table) (now : When) (w : World) :
    replacedSince w (searched table now w) = false := by
  rw [searched, replacedSince_record]
  unfold Table.searchEvents
  split <;> rfl

/-- What follows on a telling replaces nothing. -/
theorem told_since (zone : Zone) (period : Period) (status : Status)
    (ended : Except Failure Unit × World) :
    Since ended.2 (told zone period status ended) ∧
      replacedSince ended.2 (told zone period status ended) = false := by
  rcases ended with ⟨cause | ⟨⟨⟩⟩, w⟩
  · exact ⟨.of_events rfl rfl rfl rfl, replacedSince_record w _⟩
  · by_cases hhas : w.scheduler.schedule.has zone = true
    · simp only [told, if_pos hhas]
      exact ⟨.of_events rfl rfl rfl rfl,
        replacedSince_record w [.noted (.pushed zone status period)]⟩
    · simp only [told, if_neg hhas]
      exact ⟨.refl w, by simp [replacedSince, since_self]⟩

/-- A visit replaces the schedule just if it is replaced while the zone is told. -/
theorem Visits.replacedSince_eq {entry : Zone × Copy} {now : When} {w w' : World}
    (h : Visits (takeSteps take) entry.1 entry.2.table now w w') :
    replacedSince w w' = replacedTelling now entry w := by
  have hsearched := searched_replaces entry.2.table now w
  unfold replacedTelling
  cases h with
  | failed hforce =>
    have hdue : due? entry.1 entry.2.table now w = none := by simp [due?, hforce]
    rw [hdue]
    exact replacedSince_record w _
  | vacant hforce =>
    have hdue : due? entry.1 entry.2.table now w = none := by simp [due?, hforce]
    rw [hdue, replacedSince_trans (searched_since _ _ w).trace ⟨_, rfl⟩, hsearched]
    exact replacedSince_record (searched entry.2.table now w) [.noted (.noActivePeriod entry.1)]
  | same hforce hsame =>
    have hdue : due? entry.1 entry.2.table now w = none := by simp [due?, hforce, hsame]
    rw [hdue]
    exact hsearched
  | @told period status hdue =>
    obtain ⟨hsince, hnot⟩ := told_since entry.1 period status
      (tell (takeSteps take) entry.1 period status (searched entry.2.table now w))
    have htell := tell_since entry.1 period status (searched entry.2.table now w)
    rw [hdue, replacedSince_trans (searched_since _ _ w).trace (htell.trace.trans hsince.trace),
      replacedSince_trans htell.trace hsince.trace, hsearched, hnot, Bool.false_or, Bool.or_false]

/-- What becomes of the zone at a place of the snapshot, and whether the schedule was replaced by
then. -/
theorem visit_at {w : World} (hw : Numbered w) {now : When} {k : Nat} {entry : Zone × Copy}
    (hk : w.scheduler.snapshot[k]? = some entry) :
    (replacedSince w (afterVisits now w k) = false →
        Visits (takeSteps take) entry.1 entry.2.table now (afterVisits now w k)
          (afterVisits now w (k + 1))) ∧
      (replacedSince w (afterVisits now w k) = true →
        afterVisits now w (k + 1) = (afterVisits now w k).record [.noted (.skipped entry.1)]) := by
  have hlive := (afterVisits_since now w k).isLive hw (List.mem_of_getElem? hk)
  rw [afterVisits_succ hk]
  constructor
  · intro hreplaced
    rw [hreplaced, Bool.not_false] at hlive
    obtain ⟨w', hvisit, hvisits⟩ := visit_live (takeSteps take) now hlive
    rw [hvisit]
    exact hvisits
  · intro hreplaced
    rw [hreplaced, Bool.not_true] at hlive
    rw [visit_stale hlive]

/-- By the time that so many zones were visited the schedule was replaced just if it was replaced
while one of them was told that was not skipped. -/
theorem replacedSince_visits {w : World} (hw : Numbered w) (now : When) {k : Nat}
    (hk : k ≤ w.scheduler.snapshot.length) :
    replacedSince w (afterVisits now w k) = false ↔ ∀ j < k, replacedAt now w j = false := by
  induction k with
  | zero => simp [afterVisits, visitAll, replacedSince, since_self]
  | succ k ih =>
    have hget : w.scheduler.snapshot[k]? = some w.scheduler.snapshot[k] :=
      List.getElem?_eq_getElem hk
    have hsince : Since (afterVisits now w k) (afterVisits now w (k + 1)) := by
      rw [afterVisits_succ hget]
      exact .of_moves (visit_moves now _ _)
    rw [replacedSince_trans (afterVisits_since now w k).trace hsince.trace, Bool.or_eq_false_iff,
      ih (Nat.le_of_succ_le hk), Nat.forall_lt_succ_right]
    refine and_congr_right ?_
    intro hsofar
    -- Nothing was replaced so far, so the zone is not skipped.
    have hvisits := (visit_at hw hget).1 ((ih (Nat.le_of_succ_le hk)).2 hsofar)
    rw [hvisits.replacedSince_eq, replacedAt, hget, Option.any_some]

/-! ### The part of the snapshot that is processed -/

/-- How many zones are processed: those up to the first during whose telling the schedule is
replaced, and that one; or all of them. -/
theorem exists_processed (now : When) (w : World) : ∃ n ≤ w.scheduler.snapshot.length,
    (∀ j, j + 1 < n → replacedAt now w j = false) ∧
      (n < w.scheduler.snapshot.length → ∃ j, n = j + 1 ∧ replacedAt now w j = true) ∧
      (∀ k < n, ∀ j < k, replacedAt now w j = false) ∧
      ∀ k < w.scheduler.snapshot.length, n ≤ k → ¬∀ j < k, replacedAt now w j = false := by
  by_cases hany : ∃ j, j < w.scheduler.snapshot.length ∧ replacedAt now w j = true
  · have hfirst := Nat.find_spec hany
    have hbefore : ∀ j < Nat.find hany, replacedAt now w j = false := by
      intro j hj
      have hnot := Nat.find_min hany hj
      rw [not_and, Bool.not_eq_true] at hnot
      exact hnot (Nat.lt_trans hj hfirst.1)
    refine ⟨Nat.find hany + 1, hfirst.1, ?_, fun _ => ⟨_, rfl, hfirst.2⟩, ?_, ?_⟩
    · intro j hj
      exact hbefore j (by omega)
    · intro k hk j hj
      exact hbefore j (by omega)
    · intro k _ hk hall
      rw [hall _ (by omega)] at hfirst
      exact Bool.false_ne_true hfirst.2
  · have hnone : ∀ j < w.scheduler.snapshot.length, replacedAt now w j = false := by
      intro j hj
      rw [← Bool.not_eq_true]
      exact fun hj' => hany ⟨j, hj, hj'⟩
    refine ⟨_, Nat.le_refl _, ?_, fun hn => absurd hn (Nat.lt_irrefl _), ?_, ?_⟩
    · intro j hj
      exact hnone j (by omega)
    · intro k hk j hj
      exact hnone j (by omega)
    · intro k hk hn
      omega

theorem momentOr_apply (given : Option When) (w : World) : (momentOr given w).2 = w := by
  rcases given with _ | now
  · rfl
  · unfold momentOr
    simp only
    split <;> rfl

/-- **An execution processes the zones of its snapshot up to the first one during whose telling
the schedule was replaced, and no others.**  Each of them is applied the table that is in force
for it at that moment, so that a status told is the one that this table has for the period that
matches.  The other zones are left as they are. -/
theorem execute_processes {w : World} (h : Reachable w) (given : Option When) :
    (∀ cause, (momentOr given w).1 = .error cause →
        execute (takeSteps take) given w = (.error cause, w)) ∧
      ∀ now, (momentOr given w).1 = .ok now →
        execute (takeSteps take) given w =
            (.ok (), afterVisits now w w.scheduler.snapshot.length) ∧
          ∃ n ≤ w.scheduler.snapshot.length,
            (∀ j, j + 1 < n → replacedAt now w j = false) ∧
            (n < w.scheduler.snapshot.length → ∃ j, n = j + 1 ∧ replacedAt now w j = true) ∧
            (∀ k < n, ∀ zone copy, w.scheduler.snapshot[k]? = some (zone, copy) →
              (afterVisits now w k).scheduler.schedule.get? zone = some copy.table ∧
              Visits (takeSteps take) zone copy.table now (afterVisits now w k)
                (afterVisits now w (k + 1)) ∧
              ∀ period status,
                due? zone copy.table now (afterVisits now w k) = some (period, status) →
                  Period.inForceAt (afterVisits now w k).surroundings.ahead copy.table.keys now =
                    .ok (some period) ∧ copy.table.get? period = some status) ∧
            ∀ k, n ≤ k → ∀ zone copy, w.scheduler.snapshot[k]? = some (zone, copy) →
              afterVisits now w (k + 1) =
                (afterVisits now w k).record [.noted (.skipped zone)] := by
  constructor
  · intro cause hcause
    exact bind_of_error (Prod.ext hcause (momentOr_apply given w))
  intro now hnow
  have hmoment : momentOr given w = (.ok now, w) := Prod.ext hnow (momentOr_apply given w)
  have hw := h.numbered
  obtain ⟨n, hn, hfirst, hlast, hprocessed, hskipped⟩ := exists_processed now w
  refine ⟨?_, n, hn, hfirst, hlast, ?_, ?_⟩
  · rw [execute_of_moment hmoment, afterVisits, List.take_length]
  · intro k hk zone copy hget
    have hsofar := (replacedSince_visits hw now (by omega)).2 (hprocessed k hk)
    refine ⟨(afterVisits_since now w k).table (List.mem_of_getElem? hget) hsofar,
      (visit_at hw hget).1 hsofar, ?_⟩
    intro period status hdue
    exact Table.inForceAt_eq_some (due?_eq_some.1 hdue).1
  · intro k hk zone copy hget
    have hlt : k < w.scheduler.snapshot.length := (List.getElem?_eq_some_iff.1 hget).1
    have hreplaced : replacedSince w (afterVisits now w k) ≠ false := by
      intro hsofar
      exact hskipped k hlt hk ((replacedSince_visits hw now (Nat.le_of_lt hlt)).1 hsofar)
    exact (visit_at hw hget).2 (by simpa using hreplaced)

theorem snapshot_of_cottage : Cottage.made.scheduler.snapshot =
    [(Cottage.den, ⟨0, Cottage.table⟩), (Cottage.porch, ⟨1, Cottage.table⟩)] :=
  List.mergeSort_of_pairwise (by decide)

/-- In the cottage the den replaces the schedule by an equal one, and the porch is skipped. -/
theorem execution_of_cottage :
    execute (takeSteps take) (some Cottage.noon) Cottage.made =
        (.ok (), afterVisits Cottage.noon Cottage.made 2) ∧
      afterVisits Cottage.noon Cottage.made 2 =
        (afterVisits Cottage.noon Cottage.made 1).record [.noted (.skipped Cottage.porch)] := by
  obtain ⟨hexecute, n, hn, hfirst, hlast, -, hskipped⟩ :=
    (execute_processes Cottage.reachable_made (some Cottage.noon)).2 Cottage.noon rfl
  rw [snapshot_of_cottage] at hexecute hn hlast hskipped
  have hreplaced : replacedAt Cottage.noon Cottage.made 0 = true := by
    rw [replacedAt, snapshot_of_cottage]
    decide
  refine ⟨hexecute, hskipped 1 ?_ _ _ rfl⟩
  rcases Nat.lt_or_ge 1 n with hlt | hge
  · rw [hfirst 0 hlt] at hreplaced
    exact absurd hreplaced Bool.false_ne_true
  · exact hge

end Scheduler
end ZonePlan
