/-
What a visit to one zone of a snapshot comes to.

A visit to a zone whose copy is no longer in force only notes that it is skipped.  For one that
is, `Visits` lists the four things that can come of it, with all that they leave behind.  In
only one of them is the zone told anything: `due?` says when, and what.  Whatever goes wrong
with the zone is noted, and no failure leaves the visit (`visit_live`).
-/
import ZonePlan.Proofs.Scheduler.Course

namespace ZonePlan

theorem Table.result_noteInForce (t : Table) (ahead : Int) (now : When) :
    (t.noteInForce ahead now).result = t.inForceAt ahead now := by
  unfold Table.noteInForce
  rcases h : t.inForceAt ahead now with _ | _ <;> simp [Except.bind]

/-- The notes that a search of a table leaves. -/
def Table.searchEvents (t : Table) (ahead : Int) (now : When) : List Event :=
  match t.inForceAt ahead now with
  | .ok found => [.noted (.work (.ofSearch now (found.map (·.1))))]
  | .error _ => []

theorem Table.noteInForce_events (t : Table) (ahead : Int) (now : When) :
    ((t.noteInForce ahead now).notes.map fun n => Event.noted (.work n)) =
      t.searchEvents ahead now := by
  unfold Table.noteInForce Table.searchEvents
  rcases t.inForceAt ahead now with _ | _ <;> rfl

/-- A search notes its work and nothing else. -/
theorem Table.mem_searchEvents {t : Table} {ahead : Int} {now : When} {e : Event}
    (h : e ∈ t.searchEvents ahead now) : ∃ n : WorkNote, e = .noted (.work n) := by
  unfold Table.searchEvents at h
  split at h
  · exact ⟨_, List.mem_singleton.1 h⟩
  · exact absurd h List.not_mem_nil

namespace Scheduler

open Act

variable {react : Zone → List Step → Act Unit} {zone : Zone} {table : Table} {now : When}

/-- A world in which a table was searched for what is in force. -/
def searched (table : Table) (now : When) (w : World) : World :=
  w.record (table.searchEvents w.surroundings.ahead now)

/-- What a zone is to be told when a table is applied to it, with its period: what is in force,
unless the zone was told an equal status last. -/
def due? (zone : Zone) (table : Table) (now : When) (w : World) : Option (Period × Status) :=
  match table.inForceAt w.surroundings.ahead now with
  | .ok (some (period, status)) => if wasTold w zone status then none else some (period, status)
  | _ => none

theorem due?_eq_some {w : World} {period : Period} {status : Status} :
    due? zone table now w = some (period, status) ↔
      table.inForceAt w.surroundings.ahead now = .ok (some (period, status)) ∧
        wasTold w zone status = false := by
  unfold due?
  rcases table.inForceAt w.surroundings.ahead now with _ | _ | ⟨period', status'⟩
  · simp
  · simp
  · simp only [Except.ok.injEq, Option.some.injEq, Prod.mk.injEq]
    by_cases hold : wasTold w zone status' = true
    · rw [if_pos hold]
      simp only [reduceCtorEq, false_iff, not_and]
      rintro ⟨-, rfl⟩
      simp [hold]
    · rw [if_neg hold, Option.some.injEq, Prod.mk.injEq]
      exact ⟨fun h => ⟨h, by simpa [h.2] using hold⟩, fun h => h.1⟩

/-- The world after a telling ended: the zone adopted the status, which is remembered while the
zone is scheduled, or the failure is noted. -/
def told (zone : Zone) (period : Period) (status : Status) : Except Failure Unit × World → World
  | (.ok (), w) =>
    if w.scheduler.schedule.has zone then
      { w.record [.noted (.pushed zone status period)] with
        scheduler := remember zone status period w.scheduler }
    else w
  | (.error cause, w) => w.record [.noted (.pushFailed zone cause)]

/-- What comes of applying a table to a scheduled zone in a visit. -/
inductive Visits (react : Zone → List Step → Act Unit) (zone : Zone) (table : Table) (now : When)
    (w : World) : World → Prop
  /-- What is in force cannot be said. -/
  | failed {cause : Failure} (h : table.inForceAt w.surroundings.ahead now = .error cause) :
      Visits react zone table now w (w.record [.noted (.pushFailed zone cause)])
  /-- No period is in force. -/
  | vacant (h : table.inForceAt w.surroundings.ahead now = .ok none) :
      Visits react zone table now w (vacated zone (searched table now w))
  /-- The zone was last told a status equal to the one in force. -/
  | same {period : Period} {status : Status}
      (h : table.inForceAt w.surroundings.ahead now = .ok (some (period, status)))
      (hsame : wasTold w zone status = true) :
      Visits react zone table now w (searched table now w)
  /-- The zone is told the status in force. -/
  | told {period : Period} {status : Status} (h : due? zone table now w = some (period, status)) :
      Visits react zone table now w
        (told zone period status (tell react zone period status (searched table now w)))

theorem push_of_told {period : Period} {status : Status} {w : World}
    (h : wasTold w zone status = true) : push react zone period status w = (.ok (), w) := by
  simp [push, h]

theorem push_of_new {period : Period} {status : Status} {w : World}
    (h : wasTold w zone status = false) :
    attempt (push react zone period status) w =
      match tell react zone period status w with
      | (.ok (), w') => (.ok (.ok ()), told zone period status (.ok (), w'))
      | (.error cause, w') => (.ok (.error cause), w') := by
  rw [attempt_apply]
  unfold push
  rw [world_bind, if_pos (by simp [h])]
  rcases htell : tell react zone period status w with ⟨cause | _, w'⟩
  · rw [bind_of_error htell]
  · rw [bind_of_ok htell, world_bind]
    by_cases hhas : w'.scheduler.schedule.has zone = true
    · rw [if_pos hhas]
      simp only [told, if_pos hhas]
      rfl
    · rw [if_neg hhas]
      simp only [told, if_neg hhas]
      rfl

/-- What comes of a telling in which the zone adopts the status. -/
theorem told_adopted (zone : Zone) (period : Period) (status : Status) (w : World) :
    told zone period status (.ok (), w.record [.adopted zone period status]) =
      adopted zone period status w := by
  unfold told adopted
  by_cases hhas : w.scheduler.schedule.has zone = true
  · simp [hhas, World.record]
  · simp [hhas]

/-- A status that was not told last is told, and remembered if it is adopted. -/
theorem push_world {react : Zone → List Step → Act Unit} {zone : Zone} {period : Period}
    {status : Status} {w : World} (h : wasTold w zone status = false) :
    (push react zone period status w).2 =
      match tell react zone period status w with
      | (.ok (), w') => told zone period status (.ok (), w')
      | (.error _, w') => w' := by
  have hpush : (push react zone period status w).2 =
      (attempt (push react zone period status) w).2 := rfl
  rw [hpush, push_of_new h]
  rcases tell react zone period status w with ⟨cause | _, w'⟩ <;> rfl

theorem apply_of_scheduled (react : Zone → List Step → Act Unit) (table : Table) (now : When)
    {w : World} (hhas : w.scheduler.schedule.has zone = true) :
    apply react zone table now w =
      match table.inForceAt w.surroundings.ahead now with
      | .ok (some (period, status)) => push react zone period status (searched table now w)
      | .ok none => (.ok (), vacated zone (searched table now w))
      | .error cause => (.error cause, w) := by
  unfold apply
  rw [world_bind, if_pos hhas, bind_apply, logged_apply, Table.result_noteInForce,
    Table.noteInForce_events]
  rcases h : table.inForceAt w.surroundings.ahead now with cause | _ | ⟨period, status⟩
  · simp only [Table.searchEvents, h, World.record_nil]
  · rfl
  · rfl

theorem apply_of_unscheduled (react : Zone → List Step → Act Unit) (table : Table) (now : When)
    {w : World} (hhas : w.scheduler.schedule.has zone = false) :
    apply react zone table now w = (.ok (), w.record [.noted (.unscheduled zone)]) := by
  unfold apply
  rw [world_bind, if_neg (by simp [hhas])]
  rfl

theorem isLive_scheduled {s : Scheduler} {copy : Copy} (h : s.isLive zone copy = true) :
    s.schedule.has zone = true := by
  rw [Registry.has_eq_isSome, Scheduler.schedule, Registry.get?_mapValues, Option.isSome_map]
  unfold Scheduler.isLive at h
  rcases hget : s.live.get? zone with _ | c
  · simp [hget] at h
  · rfl

/-- A visit to a zone whose copy is in force applies the copy's table, and returns. -/
theorem visit_live (react : Zone → List Step → Act Unit) (now : When) {w : World} {copy : Copy}
    (hlive : w.scheduler.isLive zone copy = true) :
    ∃ w', visit react now (zone, copy) w = (.ok (), w') ∧
      Visits react zone copy.table now w w' := by
  have happly := apply_of_scheduled react copy.table now (isLive_scheduled hlive)
  unfold visit
  rw [world_bind, if_pos hlive]
  rcases h : copy.table.inForceAt w.surroundings.ahead now with cause | _ | ⟨period, status⟩
  · rw [h] at happly
    rw [bind_of_ok (attempt_apply _ _), happly]
    exact ⟨_, rfl, .failed h⟩
  · rw [h] at happly
    rw [bind_of_ok (attempt_apply _ _), happly]
    exact ⟨_, rfl, .vacant h⟩
  · have hpush : attempt (apply react zone copy.table now) w =
        attempt (push react zone period status) (searched copy.table now w) := by
      rw [attempt_apply, attempt_apply, happly, h]
    rcases hnew : wasTold w zone status with _ | _
    · have hdue := due?_eq_some.2 ⟨h, hnew⟩
      have hnew' : wasTold (searched copy.table now w) zone status = false := hnew
      rw [bind_apply, hpush, push_of_new hnew']
      have hvisits : Visits react zone copy.table now w _ := .told hdue
      rcases htell : tell react zone period status (searched copy.table now w) with ⟨cause | _, w'⟩
      · rw [htell] at hvisits
        exact ⟨_, rfl, hvisits⟩
      · rw [htell] at hvisits
        exact ⟨_, rfl, hvisits⟩
    · have hold' : wasTold (searched copy.table now w) zone status = true := hnew
      rw [bind_apply, hpush, attempt_apply, push_of_told hold']
      exact ⟨_, rfl, .same h hnew⟩

/-- A visit to a zone whose copy is not in force skips it. -/
theorem visit_stale {w : World} {copy : Copy} (hstale : w.scheduler.isLive zone copy = false) :
    visit react now (zone, copy) w = (.ok (), w.record [.noted (.skipped zone)]) := by
  unfold visit
  rw [world_bind, if_neg (by simp [hstale])]
  rfl

/-! ### All visits -/

theorem visit_ok (entry : Zone × Copy) (w : World) :
    (visit react now entry w).1 = .ok () := by
  rcases hlive : w.scheduler.isLive entry.1 entry.2 with _ | _
  · rw [visit_stale hlive]
  · obtain ⟨w', hvisit, -⟩ := visit_live react now hlive
    rw [hvisit]

theorem visitAll_cons (entry : Zone × Copy) (rest : List (Zone × Copy)) (w : World) :
    visitAll react now (entry :: rest) w = visitAll react now rest (visit react now entry w).2 :=
  bind_of_ok (Prod.ext (visit_ok entry w) rfl)

/-- No failure ends the visits. -/
theorem visitAll_ok (entries : List (Zone × Copy)) (w : World) :
    (visitAll react now entries w).1 = .ok () := by
  induction entries generalizing w with
  | nil => rfl
  | cons entry rest ih =>
    rw [visitAll_cons]
    exact ih _

theorem visitAll_append (first second : List (Zone × Copy)) (w : World) :
    visitAll react now (first ++ second) w =
      visitAll react now second (visitAll react now first w).2 := by
  induction first generalizing w with
  | nil => rfl
  | cons entry rest ih => rw [List.cons_append, visitAll_cons, visitAll_cons, ih]

theorem execute_of_moment {given : Option When} {w : World}
    (hnow : momentOr given w = (.ok now, w)) :
    execute react given w = (.ok (), (visitAll react now w.scheduler.snapshot w).2) := by
  unfold execute
  rw [bind_of_ok hnow, world_bind]
  exact Prod.ext (visitAll_ok _ _) rfl

end Scheduler
end ZonePlan
