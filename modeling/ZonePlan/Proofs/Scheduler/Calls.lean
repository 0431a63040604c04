/-
One call of the updater at a time.

Two things say how it stands with the calls of the updater: the number of the last one, which the
scheduler keeps, and the calls that have not come to their ends, which go on around it.  An update
asks whether the last call goes on.  That this is enough, so that there never are two calls at once,
is the invariant `Orderly`: a call that goes on is the last one.  It is kept by everything that is
done, since a call is begun only when none goes on, and nothing but a call changes which one was the
last.  In particular ending to run, which lets the worker go, changes neither.

It is an invariant of runs that begin without a call going on (`Runs`).
-/
import ZonePlan.Proofs.Scheduler.Late

namespace ZonePlan

theorem Registry.eq_empty_of_keys {κ α : Type} {r : Registry κ α} (h : ∀ k, k ∉ r.keys) : r = ∅ :=
  Registry.ext (List.map_eq_nil_iff.1 (List.eq_nil_iff_forall_not_mem.2 h))

namespace Scheduler

open Act

/-! ### Only the last call goes on -/

/-- A call that goes on is the last one that was made, and it is one of an updater. -/
structure Orderly (w : World) : Prop where
  last : ∀ number ∈ w.surroundings.stalled.keys, w.scheduler.lastCall = some number
  source : ∀ number ∈ w.surroundings.stalled.keys, w.surroundings.updater.isSome = true

theorem orderly_of_quiet {w : World} (h : w.surroundings.stalled = ∅) : Orderly w where
  last number hmem := by rw [h] at hmem; exact absurd hmem List.not_mem_nil
  source number hmem := by rw [h] at hmem; exact absurd hmem List.not_mem_nil

/-- When no call goes on and one is begun, that one goes on, or none if it ends in time. -/
theorem stalled_begun {w : World} (h : w.surroundings.stalled = ∅) (call : UpdaterCall) :
    (begun call w).surroundings.stalled.entries =
      if call.stalls then [(w.surroundings.calls, call)] else [] := by
  simp only [begun, h]
  split <;> rfl

namespace Orderly

variable {w : World}

theorem size_le_one (h : Orderly w) : w.surroundings.stalled.size ≤ 1 := by
  have hsize : w.surroundings.stalled.size = w.surroundings.stalled.keys.length := by
    rw [Registry.size, Registry.keys, List.length_map]
  have hnodup : w.surroundings.stalled.keys.Nodup := w.surroundings.stalled.nodup
  have hlast := h.last
  rcases hkeys : w.surroundings.stalled.keys with _ | ⟨first, _ | ⟨second, rest⟩⟩
  · rw [hsize, hkeys]
    exact Nat.zero_le 1
  · rw [hsize, hkeys]
    exact Nat.le_refl 1
  · rw [hkeys] at hnodup hlast
    have hfirst := hlast first List.mem_cons_self
    have hsecond := hlast second (List.mem_cons_of_mem _ List.mem_cons_self)
    have hsame : first = second := Option.some.inj (hfirst.symm.trans hsecond)
    exact absurd (hsame ▸ List.mem_cons_self) (List.nodup_cons.1 hnodup).1

/-- While a call goes on, an update finds that one does. -/
theorem busy (h : Orderly w) (hbusy : w.surroundings.stalled ≠ ∅) :
    w.isUpdating = true ∧ w.surroundings.updater.isSome = true := by
  by_cases hkeys : ∃ number, number ∈ w.surroundings.stalled.keys
  · obtain ⟨number, hmem⟩ := hkeys
    refine ⟨?_, h.source number hmem⟩
    rw [World.isUpdating, h.last number hmem]
    exact Registry.has_iff_mem_keys.2 hmem
  · exact absurd (Registry.eq_empty_of_keys (not_exists.1 hkeys)) hbusy

/-- A call is due only when none goes on. -/
theorem quiet (h : Orderly w) {due : Updater × UpdaterCall} (hdue : callDue? w = some due) :
    w.surroundings.stalled = ∅ := by
  by_contra hbusy
  obtain ⟨hupdating, hsource⟩ := h.busy hbusy
  obtain ⟨updater, hupdater⟩ := Option.isSome_iff_exists.1 hsource
  simp [callDue?, hupdater, hupdating] at hdue

theorem begun (h : Orderly w) {updater : Updater} {call : UpdaterCall}
    (hdue : callDue? w = some (updater, call)) : Orderly (begun call w) := by
  obtain ⟨hupdater, -, -⟩ := update_of_due hdue
  refine ⟨fun number hmem => ?_, fun _ _ => Option.isSome_iff_exists.2 ⟨updater, hupdater⟩⟩
  rw [Registry.keys, stalled_begun (h.quiet hdue)] at hmem
  rcases hstalls : call.stalls with _ | _
  · rw [hstalls] at hmem
    exact absurd hmem List.not_mem_nil
  · rw [hstalls] at hmem
    exact congrArg some (List.mem_singleton.1 hmem).symm

end Orderly

/-- A world beside itself, as long as only its last call goes on. -/
theorem orderly_lockstep : Lockstep fun w v => v = w ∧ Orderly w := by
  refine .of_same ?same ?record ?within ?around ?call ?release
  case same => rintro w _ ⟨rfl, -⟩; exact ⟨rfl, rfl⟩
  case record => rintro w _ ⟨rfl, h⟩ events; exact ⟨rfl, h.last, h.source⟩
  case within =>
    rintro w _ ⟨rfl, h⟩ scheduler hlast
    exact ⟨rfl, fun number hmem => hlast.trans (h.last number hmem), h.source⟩
  case around => rintro w _ ⟨rfl, h⟩ clock conducts file; exact ⟨rfl, h.last, h.source⟩
  case call => rintro w _ ⟨rfl, h⟩ updater call hdue; exact ⟨rfl, h.begun hdue⟩
  case release => rintro w _ ⟨rfl, -⟩; exact ⟨rfl, orderly_of_quiet rfl⟩

/-- What is kept of a world beside itself is kept. -/
theorem Parallel.orderly {α : Type} {x : Act α}
    (hx : Parallel (fun w v => v = w ∧ Orderly w) x) {w : World} (h : Orderly w) :
    Orderly (x w).2 := (hx w w ⟨rfl, h⟩).2.2

theorem Telling.orderly {zone : Zone} {table : Table} {now : When} {w w' : World}
    (htelling : Telling zone table now w w') (h : Orderly w) : Orderly w' := by
  obtain ⟨_, _, _⟩ := htelling
  exact ⟨h.last, h.source⟩

theorem Begins.orderly {step : Step} {zone : Zone} {table : Table} {now : When} {w v : World}
    (hbegins : Begins step w zone table now v) (h : Orderly w) : Orderly v := by
  induction hbegins with
  | @apply zone _ given _ w v htable =>
    have htabled := (tableOr_parallel orderly_lockstep zone given).orderly h
    rwa [htable] at htabled
  | @execute _ now visited _ _ w v _ _ hvisited _ =>
    have hvisits := (visitAll_parallel orderly_lockstep (hooks_parallel orderly_lockstep) now
      visited).orderly h
    rwa [hvisited] at hvisits
  | tick _ ih =>
    exact ih ((refresh_parallel orderly_lockstep).orderly ⟨h.last, h.source⟩)

theorem Meets.orderly {step : Step} {w w' : World} (hmeets : Meets step w w') (h : Orderly w) :
    Orderly w' := by
  obtain ⟨hbegins, htelling⟩ := hmeets
  exact htelling.orderly (hbegins.orderly h)

/-- **Only the last call goes on, in every world of a run.** -/
theorem Runs.orderly {w w' : World} (hruns : Runs w w') (h : Orderly w) : Orderly w' := by
  induction hruns with
  | refl => exact h
  | tail _ honward ih =>
    cases honward with
    | taken step => exact (take_parallel orderly_lockstep step).orderly ih
    | checking => exact ⟨ih.last, ih.source⟩
    | refreshed => exact (refresh_parallel orderly_lockstep).orderly ⟨ih.last, ih.source⟩
    | met hmeets => exact hmeets.orderly ih
    | hooked zone step =>
      have htaken := (take_parallel orderly_lockstep step).orderly ih
      exact ⟨htaken.last, htaken.source⟩

theorem begin_orderly {settings : Settings} {surroundings : Surroundings}
    (hquiet : surroundings.stalled = ∅) (schedule : Option (Logged Schedule)) :
    Orderly (begin schedule (World.initial settings surroundings)).2 :=
  (begin_parallel orderly_lockstep schedule).orderly (orderly_of_quiet hquiet)

/-! ### What becomes of a call -/

/-- An update makes no other call while one goes on. -/
theorem take_update_of_busy {w : World} (h : Orderly w) (hbusy : w.surroundings.stalled ≠ ∅) :
    take .update w = (.ok .nothing, w.record [.noted .stillUpdating]) := by
  obtain ⟨hupdating, hsource⟩ := h.busy hbusy
  obtain ⟨updater, hupdater⟩ := Option.isSome_iff_exists.1 hsource
  rw [take_update, update_of_busy hupdater hupdating]
  rfl

/-- An update whose call does not end in time returns, and the call goes on. -/
theorem take_update_of_stalls {w : World} {updater : Updater} {call : UpdaterCall}
    (hdue : callDue? w = some (updater, call)) (hstalls : call.stalls = true) :
    ∃ w', take .update w = (.ok .nothing, w') ∧ Untouched w w' ∧
      w'.surroundings = (begun call w).surroundings := by
  obtain ⟨-, hcall, hupdate⟩ := update_of_due hdue
  rw [take_update, hupdate, fetch_of_stalls hcall hstalls, settle_of_inputOutput _ rfl]
  exact ⟨_, rfl, (begun_untouched call w).record _, rfl⟩

/-- An update makes one call when none goes on. -/
theorem calls_update {w : World} (hquiet : w.surroundings.stalled = ∅)
    (hsource : w.surroundings.updater.isSome = true) :
    (take .update w).2.surroundings.calls = w.surroundings.calls + 1 := by
  obtain ⟨updater, hupdater⟩ := Option.isSome_iff_exists.1 hsource
  have hidle : w.isUpdating = false := by
    rw [World.isUpdating, hquiet]
    rcases w.scheduler.lastCall with _ | number <;> rfl
  rw [take_update, update_surroundings, callDue?_of_quiet hupdater hidle]
  rfl

/-- Ending to run lets the worker go, and leaves a call that goes on to itself. -/
theorem stop_apply (w : World) : stop w =
    (.ok (), { w.record (if w.scheduler.running then [.noted .stopped] else []) with
      scheduler := { w.scheduler with running := false, hasWorker := false } }) := by
  unfold stop
  rw [bind_of_ok (changeScheduler_apply _ _), world_bind]
  rcases hrunning : w.scheduler.running with _ | _
  · rw [if_neg (by simp), if_neg Bool.false_ne_true, World.record_nil, ← hrunning]
    rfl
  · simp [World.record, bind_apply]

theorem take_stop (w : World) : (take .stop w).2 = (stop w).2 := by
  have hstep : take .stop w =
      (stop >>= fun _ => world >>= fun w => pure (Answer.truth w.scheduler.running)) w :=
    congrFun (congrFun take_eq _) w
  have hstop : stop w = (.ok (), (stop w).2) := by rw [stop_apply]
  rw [hstep, bind_of_ok hstop]
  rfl

theorem take_release (w : World) : take .release w = (.ok .nothing, released w) := by
  rw [take_eq]
  exact bind_of_ok (release_apply w)

/-- **There is one call of the updater at a time, and what it gives counts only in time.**  In a run
that begins without a call going on never two of them go on, and a call is due only when none does.
While one goes on, an update makes no other, returns and changes nothing, also after the worker was
let go.  When it has come to its end nothing is different for the scheduler, and whatever it gives
makes no difference to the rest of the run.  After that an update makes just one call. -/
theorem one_call_at_a_time {settings : Settings} {surroundings : Surroundings}
    {schedule : Option (Logged Schedule)} {w : World} (hquiet : surroundings.stalled = ∅)
    (hruns : Runs (begin schedule (World.initial settings surroundings)).2 w) :
    w.surroundings.stalled.size ≤ 1 ∧
      (∀ due, callDue? w = some due → w.surroundings.stalled = ∅) ∧
      (w.surroundings.stalled ≠ ∅ →
        take .update w = (.ok .nothing, w.record [.noted .stillUpdating]) ∧
        ∃ stopped, (take .stop w).2 = stopped ∧ stopped.scheduler.hasWorker = false ∧
          stopped.surroundings = w.surroundings ∧
          take .update stopped = (.ok .nothing, stopped.record [.noted .stillUpdating])) ∧
      (∀ updater call, callDue? w = some (updater, call) → call.stalls = true →
        ∃ w', take .update w = (.ok .nothing, w') ∧ Untouched w w' ∧
          w'.surroundings.stalled.entries = [(w.surroundings.calls, call)]) ∧
      (∃ w', take .release w = (.ok .nothing, w') ∧ w'.scheduler = w.scheduler ∧
        w'.surroundings.stalled = ∅) ∧
      (∀ v, w.SameInTime v → ∀ steps,
        (turns steps v).map (·.result) = (turns steps w).map (·.result) ∧
          (afterAll steps v).scheduler = (afterAll steps w).scheduler ∧
          (since v (afterAll steps v)).filter Event.isDeed =
            (since w (afterAll steps w)).filter Event.isDeed) ∧
      (w.surroundings.stalled = ∅ → w.surroundings.updater.isSome = true →
        (take .update w).2.surroundings.calls = w.surroundings.calls + 1) := by
  have h : Orderly w := hruns.orderly (begin_orderly hquiet schedule)
  refine ⟨h.size_le_one, fun _ hdue => h.quiet hdue, ?_, ?_, ?_, ?_, calls_update⟩
  · intro hbusy
    refine ⟨take_update_of_busy h hbusy, _, rfl, ?_⟩
    rw [take_stop, stop_apply]
    exact ⟨rfl, rfl, take_update_of_busy ⟨h.last, h.source⟩ hbusy⟩
  · intro updater call hdue hstalls
    obtain ⟨w', hupdate, huntouched, hsurroundings⟩ := take_update_of_stalls hdue hstalls
    refine ⟨w', hupdate, huntouched, ?_⟩
    rw [hsurroundings, stalled_begun (h.quiet hdue), if_pos hstalls]
  · exact ⟨_, take_release w, rfl, rfl⟩
  · intro v hv steps
    exact afterAll_of_sameInTime hv steps

namespace Cottage

/-- The surroundings of the cottage with an updater whose first call stalls. -/
def slow (late : Logged (Option Schedule)) : Surroundings :=
  { surroundings with updater := some (.scripted [⟨true, late⟩, ⟨false, pure (some ∅)⟩]) }

/-- The first call was made and did not end in time. -/
def waiting (late : Logged (Option Schedule)) : World :=
  (take .update (begin (some (pure plan)) (World.initial .default (slow late))).2).2

theorem runs_waiting (late : Logged (Option Schedule)) :
    Runs (begin (some (pure plan)) (World.initial .default (slow late))).2 (waiting late) :=
  .single (.taken .update _)

theorem waiting_sameInTime (late late' : Logged (Option Schedule)) :
    (waiting late).SameInTime (waiting late') where
  scheduler := rfl
  ahead := rfl
  clock := rfl
  conducts := rfl
  file := rfl
  calls := rfl
  updater := by
    refine .some ⟨rfl, fun content number => ?_⟩
    match number with
    | 0 => exact ⟨rfl, fun h => Bool.noConfusion h⟩
    | 1 => exact .refl _
    | _ + 2 => exact .refl _
  stalled := rfl

end Cottage

/-- While the first call goes on in the cottage, no other is made; once it is over, the next update
makes one.  What it gave, a schedule or none, makes no difference to a run after that. -/
theorem calls_of_cottage :
    take .update (Cottage.waiting (pure none)) =
        (.ok .nothing, (Cottage.waiting (pure none)).record [.noted .stillUpdating]) ∧
      (take .update (take .release (Cottage.waiting (pure none))).2).2.surroundings.calls = 2 ∧
      (afterAll [.release, .tick] (Cottage.waiting (pure (some Cottage.plan)))).scheduler =
        (afterAll [.release, .tick] (Cottage.waiting (pure none))).scheduler := by
  have hruns := Cottage.runs_waiting (pure none)
  obtain ⟨-, -, hbusy, -, -, hlate, -⟩ := one_call_at_a_time rfl hruns
  obtain ⟨-, -, -, -, -, -, hquiet⟩ := one_call_at_a_time rfl (hruns.tail (.taken .release _))
  refine ⟨(hbusy ?_).1, hquiet rfl rfl, ?_⟩
  · intro hempty
    cases congrArg Registry.entries hempty
  · exact (hlate _ (Cottage.waiting_sameInTime _ _) [.release, .tick]).2.1

end Scheduler
end ZonePlan
