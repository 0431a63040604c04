/-
What comes too late makes no difference.

A call of the updater that does not end in time is given up, and when it ends after all its outcome
is thrown away.  What that means for a scheduler is said with two worlds: they are the same but for
what such calls give, those that are still to be made and those that go on (`World.SameInTime`).
Whatever is done from there on, the scheduler comes out the same in both, and zones are told the
same.  So nothing that such a call gives is ever installed, nor does it have any other effect.  The
only trace of it are the notes that it leaves when it ends.
-/
import ZonePlan.Proofs.Registry
import ZonePlan.Proofs.Scheduler.Tick

namespace ZonePlan

/-- Two worlds that are the same but for what calls give that do not end in time, and for what has
happened so far. -/
structure World.SameInTime (w v : World) : Prop where
  scheduler : v.scheduler = w.scheduler
  ahead : v.surroundings.ahead = w.surroundings.ahead
  clock : v.surroundings.clock = w.surroundings.clock
  conducts : v.surroundings.conducts = w.surroundings.conducts
  file : v.surroundings.file = w.surroundings.file
  calls : v.surroundings.calls = w.surroundings.calls
  updater : Option.Rel Updater.SameInTime w.surroundings.updater v.surroundings.updater
  stalled : v.surroundings.stalled.keys = w.surroundings.stalled.keys

namespace Scheduler

open Act

/-- Two worlds that are the same in time, and that came from two others by the same deeds. -/
structure Alike (w₀ v₀ w v : World) : Prop where
  same : w.SameInTime v
  deeds : ∃ events events', w.trace = w₀.trace ++ events ∧ v.trace = v₀.trace ++ events' ∧
    events'.filter Event.isDeed = events.filter Event.isDeed

theorem Alike.self {w v : World} (h : w.SameInTime v) : Alike w v w v :=
  ⟨h, [], [], (List.append_nil _).symm, (List.append_nil _).symm, rfl⟩

/-- More happens in both. -/
theorem Alike.record {w₀ v₀ w v : World} (h : Alike w₀ v₀ w v) {events events' : List Event}
    (hevents : events'.filter Event.isDeed = events.filter Event.isDeed) :
    Alike w₀ v₀ (w.record events) (v.record events') := by
  obtain ⟨⟨hscheduler, hahead, hclock, hconducts, hfile, hcalls, hupdater, hstalled⟩,
    earlier, earlier', hw, hv, hearlier⟩ := h
  refine ⟨⟨hscheduler, hahead, hclock, hconducts, hfile, hcalls, hupdater, hstalled⟩,
    earlier ++ events, earlier' ++ events', ?_, ?_, ?_⟩
  · rw [World.record_trace, hw, List.append_assoc]
  · rw [World.record_trace, hv, List.append_assoc]
  · rw [List.filter_append, List.filter_append, hearlier, hevents]

theorem isUpdating_congr {w v : World} (h : w.SameInTime v) : v.isUpdating = w.isUpdating := by
  unfold World.isUpdating
  rw [h.scheduler]
  rcases w.scheduler.lastCall with _ | number
  · rfl
  · exact Registry.has_congr h.stalled number

theorem begun_sameInTime {w v : World} (h : w.SameInTime v) {c d : UpdaterCall}
    (hcall : c.SameInTime d) : (begun c w).SameInTime (begun d v) := by
  refine ⟨?_, h.ahead, h.clock, h.conducts, h.file, ?_, h.updater, ?_⟩
  · simp only [begun, h.scheduler, h.calls]
  · simp only [begun, h.calls]
  · simp only [begun, hcall.stalls, h.calls]
    rcases c.stalls with _ | _
    · exact h.stalled
    · simp only [if_true, Registry.keys_insert, Registry.has_congr h.stalled, h.stalled]

theorem filter_isDeed_lateNotes (w : World) : (lateNotes w).filter Event.isDeed = [] := by
  rw [List.filter_eq_nil_iff]
  intro e he
  obtain ⟨n, rfl⟩ := lateNotes_work he
  exact Bool.false_ne_true

theorem alike_lockstep (w₀ v₀ : World) : Lockstep (Alike w₀ v₀) where
  scheduler h := h.same.scheduler
  ahead h := h.same.ahead
  clock h := h.same.clock
  conducts h := h.same.conducts
  file h := h.same.file
  calls h := h.same.calls
  updater h := h.same.updater
  updating h := isUpdating_congr h.same
  record h events := h.record rfl
  within h scheduler _ := ⟨{ h.same with scheduler := rfl }, h.deeds⟩
  around h clock conducts file :=
    ⟨{ h.same with clock := rfl, conducts := rfl, file := rfl }, h.deeds⟩
  call h _ _ _ _ _ _ hcall := ⟨begun_sameInTime h.same hcall, h.deeds⟩
  release {w v} h := by
    have hnotes := (filter_isDeed_lateNotes v).trans (filter_isDeed_lateNotes w).symm
    have hrecord := h.record hnotes
    exact ⟨{ hrecord.same with stalled := rfl }, hrecord.deeds⟩

/-- **What a call gives once it is too late makes no difference to what a scheduler answers, what
it becomes and what zones are told**, whatever steps are taken from there on. -/
theorem afterAll_of_sameInTime {w v : World} (h : w.SameInTime v) (steps : List Step) :
    (turns steps v).map (·.result) = (turns steps w).map (·.result) ∧
      (afterAll steps v).scheduler = (afterAll steps w).scheduler ∧
      (since v (afterAll steps v)).filter Event.isDeed =
        (since w (afterAll steps w)).filter Event.isDeed := by
  obtain ⟨hresults, hsame, events, events', hw, hv, hdeeds⟩ :=
    turns_parallel (alike_lockstep w v) steps (Alike.self h)
  refine ⟨hresults, hsame.scheduler, ?_⟩
  rw [since_of_trace hw, since_of_trace hv, hdeeds]

end Scheduler
end ZonePlan
