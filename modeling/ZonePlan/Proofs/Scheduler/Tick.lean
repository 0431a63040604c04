/-
A run is an update and an execution.

A run refreshes the schedule and then applies it, and whatever goes wrong in either is noted and
goes no further.  What is shown here is that it is no more than that: it leaves the scheduler and
its surroundings as an update and an execution leave them that are done one after the other, and
what happens in it is what happens in these two, between notes of its own (`tickEvents`).  So a
refresh that fails in whatever way only means that the execution finds the schedule from before.

In a run the execution follows upon other events than it does alone, namely the notes of the run.
That this makes no difference is where worlds in step come in: `Regardless` relates worlds that
differ in nothing but their past.
-/
import ZonePlan.Proofs.Scheduler.Lockstep
import ZonePlan.Proofs.Scheduler.Snapshot

namespace ZonePlan

/-- The world with another past. -/
def World.recalling (w : World) (trace : List Event) : World := { w with trace }

/-- Whether an event is more than a note: a zone is told a status, adopts or refuses it, or takes
a step of its own. -/
def Event.isDeed : Event → Bool
  | .noted _ => false
  | _ => true

namespace Scheduler

open Act

/-! ### The past makes no difference -/

/-- One world came from a certain one, and the other came from another in just the same way.  They
differ in nothing but what had happened before. -/
def Regardless (w₀ v₀ w v : World) : Prop :=
  ∃ events, w.trace = w₀.trace ++ events ∧ v = w.recalling (v₀.trace ++ events)

theorem regardless_lockstep (w₀ v₀ : World) : Lockstep (Regardless w₀ v₀) := by
  refine .of_same ?same ?record ?within ?around ?call ?release
  case same => rintro w _ ⟨_, -, rfl⟩; exact ⟨rfl, rfl⟩
  case record =>
    rintro w _ ⟨events, htrace, rfl⟩ more
    refine ⟨events ++ more, ?_, ?_⟩
    · rw [World.record_trace, htrace, List.append_assoc]
    · simp only [World.recalling, World.record, List.append_assoc]
  case within => rintro w _ ⟨events, htrace, rfl⟩ _ -; exact ⟨events, htrace, rfl⟩
  case around => rintro w _ ⟨events, htrace, rfl⟩ _ _ _; exact ⟨events, htrace, rfl⟩
  case call => rintro w _ ⟨events, htrace, rfl⟩ _ _ -; exact ⟨events, htrace, rfl⟩
  case release =>
    rintro w _ ⟨events, htrace, rfl⟩
    refine ⟨events ++ lateNotes w, ?_, ?_⟩
    · rw [released, World.record_trace, htrace, List.append_assoc]
    · simp only [World.recalling, released, World.record, lateNotes, List.append_assoc]

/-- An act for which the past makes no difference adds to the trace, and from another trace it
gives and leaves the same and adds the same. -/
theorem Parallel.anew {α : Type} {x : Act α}
    (hx : ∀ w₀ v₀, Parallel (Regardless w₀ v₀) x) (w : World) (earlier : List Event) :
    w.trace <+: (x w).2.trace ∧ x (w.recalling earlier) =
      ((x w).1, (x w).2.recalling (earlier ++ since w (x w).2)) := by
  have hstart : Regardless w (w.recalling earlier) w (w.recalling earlier) :=
    ⟨[], (List.append_nil _).symm, by simp only [World.recalling, List.append_nil]⟩
  obtain ⟨hresult, events, htrace, hworld⟩ := hx _ _ _ _ hstart
  rw [since_of_trace htrace]
  exact ⟨⟨events, htrace.symm⟩, Prod.ext hresult hworld⟩

theorem update_anew (w : World) (earlier : List Event) :
    w.trace <+: (update w).2.trace ∧ update (w.recalling earlier) =
      ((update w).1, (update w).2.recalling (earlier ++ since w (update w).2)) :=
  Parallel.anew (fun w₀ v₀ => update_parallel (regardless_lockstep w₀ v₀)) w earlier

theorem execute_anew (given : Option When) (w : World) (earlier : List Event) :
    w.trace <+: (execute (takeSteps take) given w).2.trace ∧
      execute (takeSteps take) given (w.recalling earlier) =
        ((execute (takeSteps take) given w).1, (execute (takeSteps take) given w).2.recalling
          (earlier ++ since w (execute (takeSteps take) given w).2)) :=
  Parallel.anew (fun w₀ v₀ => execute_parallel (regardless_lockstep w₀ v₀)
    (hooks_parallel (regardless_lockstep w₀ v₀)) given) w earlier

/-! ### The parts of a run -/

/-- The note on an outcome that is a failure. -/
def failureNotes {α : Type} (note : Failure → Note) : Except Failure α → List Event
  | .ok _ => []
  | .error cause => [.noted (note cause)]

theorem refresh_apply (w : World) :
    refresh w = (.ok (), (update w).2.record (failureNotes refreshNote (update w).1)) := by
  unfold refresh
  rw [bind_of_ok (attempt_apply _ _)]
  rcases (update w).1 with cause | _
  · rfl
  · rw [failureNotes, World.record_nil]
    rfl

theorem tick_apply (react : Zone → List Step → Act Unit) (w : World) :
    tick react w = (.ok (),
      ((execute react none (refresh (w.record [.noted .checking])).2).2.record
        (failureNotes .tickBroke (execute react none (refresh (w.record [.noted .checking])).2).1 ++
          [.noted .done]))) := by
  have hrun : (refresh >>= fun _ => execute react none) (w.record [.noted .checking]) =
      execute react none (refresh (w.record [.noted .checking])).2 :=
    bind_of_ok (by rw [refresh_apply])
  unfold tick
  rw [bind_of_ok (note_apply _ _), bind_of_ok (attempt_apply _ _), hrun, ← World.record_record]
  rcases (execute react none (refresh (w.record [.noted .checking])).2).1 with cause | _
  · rfl
  · rw [failureNotes, World.record_nil]
    rfl

/-- All that happens in a run: what happens in its update and in its execution, between notes. -/
def tickEvents (w : World) : List Event :=
  let updated := update w
  let executed := execute (takeSteps take) none updated.2
  [.noted .checking] ++ since w updated.2 ++ failureNotes refreshNote updated.1 ++
    since updated.2 executed.2 ++ failureNotes .tickBroke executed.1 ++ [.noted .done]

theorem tick_world (w : World) : (tick (takeSteps take) w).2 =
    (execute (takeSteps take) none (update w).2).2.recalling (w.trace ++ tickEvents w) := by
  have hrefreshed : (refresh (w.record [.noted .checking])).2 = (update w).2.recalling
      (w.trace ++ [.noted .checking] ++ since w (update w).2 ++
        failureNotes refreshNote (update w).1) := by
    have hrecord : w.record [.noted .checking] = w.recalling (w.trace ++ [.noted .checking]) := rfl
    rw [refresh_apply, hrecord, (update_anew w _).2]
    rfl
  rw [tick_apply, hrefreshed, (execute_anew none (update w).2 _).2]
  simp only [World.recalling, World.record, tickEvents, List.append_assoc]

theorem filter_isDeed_failureNotes {α : Type} (note : Failure → Note)
    (outcome : Except Failure α) : (failureNotes note outcome).filter Event.isDeed = [] := by
  rcases outcome with cause | _ <;> rfl

theorem filter_isDeed_tickEvents (w : World) :
    (tickEvents w).filter Event.isDeed =
      (since w (execute (takeSteps take) none (update w).2).2).filter Event.isDeed := by
  have hupdate := (update_anew w []).1
  have hexecute := (execute_anew none (update w).2 []).1
  rw [since_trans hupdate hexecute]
  simp only [tickEvents, List.filter_append, filter_isDeed_failureNotes, List.append_nil]
  simp [Event.isDeed]

/-! ### As steps -/

theorem answered_apply (x : Act Unit) (answer : Answer) (w : World) :
    (x >>= fun _ => pure answer) w = ((x w).1.map fun _ => answer, (x w).2) := by
  rw [bind_apply]
  rcases x w with ⟨_ | _, w'⟩ <;> rfl

theorem take_update (w : World) :
    take .update w = ((update w).1.map fun _ => .nothing, (update w).2) :=
  (congrFun (congrFun take_eq _) w).trans (answered_apply update .nothing w)

theorem take_execute_apply (given : Option When) (w : World) : take (.execute given) w =
    ((execute (takeSteps take) given w).1.map fun _ => .nothing,
      (execute (takeSteps take) given w).2) :=
  (congrFun (congrFun take_eq _) w).trans (answered_apply _ .nothing w)

theorem take_tick (w : World) : take .tick w = (.ok .nothing, (tick (takeSteps take) w).2) :=
  (congrFun (congrFun take_eq _) w).trans (bind_of_ok (Prod.ext (by rw [tick_apply]) rfl))

/-- The schedule that an execution finds is applied to its zones one after the other, unless the
clock fails. -/
theorem execute_clock (w : World) :
    (execute (takeSteps take) none w).2 =
      match w.surroundings.clock with
      | .ok now => (visitAll (takeSteps take) now w.scheduler.snapshot w).2
      | .error _ => w := by
  have hmoment : momentOr none w = (w.surroundings.clock, w) := rfl
  unfold execute
  rcases hclock : w.surroundings.clock with cause | now
  · rw [hclock] at hmoment
    rw [bind_of_error hmoment]
  · rw [hclock] at hmoment
    rw [bind_of_ok hmoment, world_bind]

theorem update_clock (w : World) : (update w).2.surroundings.clock = w.surroundings.clock := by
  rw [update_surroundings]
  rcases callDue? w with _ | ⟨updater, call⟩ <;> rfl

/-- **A run never fails, and it comes to an update whose failure is swallowed and an execution
after it.**  It leaves the scheduler and its surroundings as these two do, and zones are told, and
do, the same.  When the clock fails that is the update alone.  Otherwise the schedule in force
after the update is applied, and that is the one from before whenever the update was given none,
for whatever reason. -/
theorem tick_updates_and_executes (w : World) :
    ∃ updated executed ticked, (take .update w).2 = updated ∧
      (take (.execute none) updated).2 = executed ∧ take .tick w = (.ok .nothing, ticked) ∧
      ticked.scheduler = executed.scheduler ∧ ticked.surroundings = executed.surroundings ∧
      (since w ticked).filter Event.isDeed = (since w executed).filter Event.isDeed ∧
      (∀ cause, w.surroundings.clock = .error cause → executed = updated) ∧
      (∀ now, w.surroundings.clock = .ok now →
        executed = (visitAll (takeSteps take) now updated.scheduler.snapshot updated).2) ∧
      ((∀ schedule, outcome? w ≠ some (.ok (some schedule))) →
        Untouched w updated ∧ updated.scheduler.snapshot = w.scheduler.snapshot) := by
  refine ⟨_, _, _, rfl, rfl, take_tick w, ?_⟩
  rw [take_update, take_execute_apply, tick_world]
  refine ⟨rfl, rfl, ?_, ?_, ?_, ?_⟩
  · rw [since_of_trace rfl]
    exact filter_isDeed_tickEvents w
  · intro cause hclock
    rw [execute_clock, update_clock, hclock]
  · intro now hclock
    rw [execute_clock, update_clock, hclock]
  · intro hnone
    have huntouched := update_untouched hnone
    exact ⟨huntouched, by rw [Scheduler.snapshot, huntouched.live, Scheduler.snapshot]⟩

namespace Cottage

/-- The updater has given its only schedule. -/
def served : World := (take .update made).2

theorem snapshot_served : served.scheduler.snapshot = [(den, ⟨2, table⟩), (porch, ⟨3, table⟩)] :=
  List.mergeSort_of_pairwise (by decide)

end Cottage

/-- A second update in the cottage is given none and fails.  A run in its place returns, and the den
is told its status by the schedule from before. -/
theorem tick_of_cottage :
    (take .update Cottage.served).1 = .error (.noSchedule "ScriptedUpdater") ∧
      ∃ ticked, take .tick Cottage.served = (.ok .nothing, ticked) ∧
        ticked.status? Cottage.den = some Cottage.warm := by
  obtain ⟨updated, executed, ticked, hupdated, -, htick, hscheduler, -, -, -, hclock, hnone⟩ :=
    tick_updates_and_executes Cottage.served
  have houtcome : outcome? Cottage.served = some (.ok none) := rfl
  obtain ⟨-, hsnapshot⟩ := hnone fun schedule hgiven => by rw [houtcome] at hgiven; cases hgiven
  have hexecuted := hclock Cottage.noon rfl
  rw [hsnapshot, Cottage.snapshot_served, ← hupdated] at hexecuted
  refine ⟨rfl, ticked, htick, ?_⟩
  rw [World.status?, hscheduler, hexecuted]
  rfl

end Scheduler
end ZonePlan
