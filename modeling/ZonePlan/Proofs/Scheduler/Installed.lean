/-
Which schedule is in force, and what an update may do to it.

A schedule is installed as a whole or not at all.  `Installs` says what a world looks like
after that, `Untouched` that neither the schedule nor what zones were told is any different.
An update ends in one of the two, and which one is decided by what the updater's call gives
before it is too late: `outcome?`.  That what was told is forgotten of all zones which the
new schedule lacks holds because nothing was remembered of zones without a table
(`Remembers.memory_unscheduled`), so it is stated of worlds that a run comes through.
-/
import ZonePlan.Proofs.Scheduler.Memory

namespace ZonePlan.Scheduler

open Act

/-! ### Two ends of an update -/

/-- A schedule is installed: it is in force, the trace says so, and what zones were told is kept
for just those that are in it. -/
structure Installs (schedule : Schedule) (w w' : World) : Prop where
  inForce : w'.scheduler.schedule = schedule
  recorded : lastInstalled w'.trace.reverse = schedule
  memory : ∀ zone, w'.memory zone = if schedule.has zone then w.memory zone else (none, none)

/-- The schedule and what zones were told are the same, down to the copies. -/
structure Untouched (w w' : World) : Prop where
  live : w'.scheduler.live = w.scheduler.live
  statuses : w'.scheduler.statuses = w.scheduler.statuses
  periods : w'.scheduler.periods = w.scheduler.periods

theorem Untouched.refl (w : World) : Untouched w w := ⟨rfl, rfl, rfl⟩

theorem Untouched.record {w w' : World} (h : Untouched w w') (events : List Event) :
    Untouched w (w'.record events) := ⟨h.live, h.statuses, h.periods⟩

theorem Remembers.installs {w w' : World} (h : Remembers w) (hw' : Untouched w w')
    (schedule : Schedule) : Installs schedule w (installed schedule w') := by
  have hlive : w'.scheduler.schedule = w.scheduler.schedule := by
    rw [Scheduler.schedule, hw'.live, Scheduler.schedule]
  have hmemory : ∀ zone, w'.memory zone = w.memory zone := by
    intro zone
    simp only [World.memory, World.status?, World.period?, hw'.statuses, hw'.periods]
  refine ⟨schedule_install schedule w'.scheduler, ?_, ?_⟩
  · obtain ⟨earlier, hback, -⟩ := trace_installed schedule w'
    rw [hback, lastInstalled]
  · intro zone
    rw [memory_installed, hlive, hmemory]
    rcases hnew : schedule.has zone with _ | _
    · rcases hold : w.scheduler.schedule.has zone with _ | _
      · simp [h.memory_unscheduled hold]
      · simp
    · simp

/-! ### What the updater gives -/

/-- The updater and the call of it that an update makes.  There is none without an updater, nor
while the call before goes on. -/
def callDue? (w : World) : Option (Updater × UpdaterCall) :=
  match w.surroundings.updater with
  | none => none
  | some updater =>
    if w.isUpdating then none
    else some (updater, updater.call w.surroundings.file w.surroundings.calls)

/-- What an update is given in time by the call that it makes. -/
def outcome? (w : World) : Option (Except Failure (Option Schedule)) :=
  (callDue? w).bind fun due => if due.2.stalls then none else some due.2.gives.result

/-- The world in which a call was begun. -/
def begun (call : UpdaterCall) (w : World) : World :=
  { w with
    surroundings := { w.surroundings with
      calls := w.surroundings.calls + 1
      stalled :=
        if call.stalls then w.surroundings.stalled.insert w.surroundings.calls call
        else w.surroundings.stalled }
    scheduler := { w.scheduler with
      lastCall := some w.surroundings.calls
      hasWorker := true } }

theorem begun_untouched (call : UpdaterCall) (w : World) : Untouched w (begun call w) :=
  ⟨rfl, rfl, rfl⟩

theorem beginCall_bind {α : Type} (call : UpdaterCall) (f : Unit → Act α) (w : World) :
    (beginCall call >>= f) w = f () (begun call w) := rfl

/-! ### Fetching -/

section Fetch

variable {w : World} {updater : Updater} {call : UpdaterCall}

theorem fetch_of_stalls (hcall : call = updater.call w.surroundings.file w.surroundings.calls)
    (h : call.stalls = true) :
    fetch updater w = (.error (.timedOut w.scheduler.settings.updaterTimeout), begun call w) := by
  subst hcall
  unfold fetch
  rw [world_bind, beginCall_bind, if_pos h]
  rfl

theorem fetch_of_ok (hcall : call = updater.call w.surroundings.file w.surroundings.calls)
    (h : call.stalls = false) {given : Option Schedule} (hgiven : call.gives.result = .ok given) :
    ∃ w', fetch updater w = (.ok given, w') ∧ Untouched w w' := by
  subst hcall
  unfold fetch
  rw [world_bind, beginCall_bind, if_neg (by simp [h]), bind_of_ok (attempt_apply _ _)]
  simp only [logged_apply, hgiven]
  exact ⟨_, rfl, (begun_untouched _ w).record _⟩

/-- A time-out that the updater reports of its own is told like one of the scheduler's. -/
theorem fetch_of_error (hcall : call = updater.call w.surroundings.file w.surroundings.calls)
    (h : call.stalls = false) {cause : Failure} (hcause : call.gives.result = .error cause) :
    ∃ cause' w', fetch updater w = (.error cause', w') ∧ Untouched w w' ∧
      (cause' = cause ∨ cause.kind = .timeout ∧ cause'.kind.isInputOutput = true) := by
  subst hcall
  unfold fetch
  rw [world_bind, beginCall_bind, if_neg (by simp [h]), bind_of_ok (attempt_apply _ _)]
  simp only [logged_apply, hcause]
  by_cases htime : cause.kind = .timeout
  · rw [if_pos htime]
    exact ⟨_, _, rfl, (begun_untouched _ w).record _, .inr ⟨htime, rfl⟩⟩
  · rw [if_neg htime]
    exact ⟨_, _, rfl, (begun_untouched _ w).record _, .inl rfl⟩

end Fetch

/-! ### The ends of an update -/

theorem update_of_no_updater {w : World} (h : w.surroundings.updater = none) :
    update w = (.ok (), w.record [.noted .noUpdater]) := by
  simp [update, h]

theorem update_of_busy {w : World} {updater : Updater} (h : w.surroundings.updater = some updater)
    (hbusy : w.isUpdating = true) : update w = (.ok (), w.record [.noted .stillUpdating]) := by
  simp [update, h, hbusy]

theorem callDue?_of_quiet {w : World} {updater : Updater}
    (h : w.surroundings.updater = some updater) (hquiet : w.isUpdating = false) :
    callDue? w = some (updater, updater.call w.surroundings.file w.surroundings.calls) := by
  simp [callDue?, h, hquiet]

/-- When no call is due, an update makes none. -/
theorem update_of_idle {w : World} (h : callDue? w = none) :
    ∃ events, update w = (.ok (), w.record events) := by
  rcases hupdater : w.surroundings.updater with _ | updater
  · exact ⟨_, update_of_no_updater hupdater⟩
  · rcases hbusy : w.isUpdating with _ | _
    · rw [callDue?_of_quiet hupdater hbusy] at h
      cases h
    · exact ⟨_, update_of_busy hupdater hbusy⟩

theorem update_of_due {w : World} {updater : Updater} {call : UpdaterCall}
    (h : callDue? w = some (updater, call)) :
    w.surroundings.updater = some updater ∧
      call = updater.call w.surroundings.file w.surroundings.calls ∧
      update w = settle updater (fetch updater w).1 (fetch updater w).2 := by
  rcases hupdater : w.surroundings.updater with _ | updater'
  · simp [callDue?, hupdater] at h
  · rcases hbusy : w.isUpdating with _ | _
    · rw [callDue?_of_quiet hupdater hbusy, Option.some.injEq, Prod.mk.injEq] at h
      obtain ⟨rfl, rfl⟩ := h
      exact ⟨rfl, rfl, by simp [update, hupdater, hbusy, bind_apply]⟩
    · simp [callDue?, hupdater, hbusy] at h

/-- A call that gives something in time is one that is due and does not stall. -/
theorem outcome?_eq_some {w : World} {given : Except Failure (Option Schedule)}
    (h : outcome? w = some given) :
    ∃ updater call, callDue? w = some (updater, call) ∧ call.stalls = false ∧
      call.gives.result = given := by
  unfold outcome? at h
  rcases hdue : callDue? w with _ | ⟨updater, call⟩
  · simp [hdue] at h
  · rcases hstalls : call.stalls with _ | _
    · exact ⟨updater, call, rfl, hstalls, by simpa [hdue, hstalls] using h⟩
    · simp [hdue, hstalls] at h

theorem update_of_none {w : World} (h : outcome? w = none) :
    ∃ w', update w = (.ok (), w') ∧ Untouched w w' := by
  rcases hdue : callDue? w with _ | ⟨updater, call⟩
  · obtain ⟨events, hupdate⟩ := update_of_idle hdue
    exact ⟨_, hupdate, (Untouched.refl w).record events⟩
  · rcases hstalls : call.stalls with _ | _
    · simp [outcome?, hdue, hstalls] at h
    · obtain ⟨-, hcall, hupdate⟩ := update_of_due hdue
      rw [hupdate, fetch_of_stalls hcall hstalls]
      exact ⟨_, rfl, (begun_untouched call w).record _⟩

theorem update_of_schedule {w : World} {schedule : Schedule}
    (h : outcome? w = some (.ok (some schedule))) :
    ∃ w', update w = (.ok (), installed schedule w') ∧ Untouched w w' := by
  obtain ⟨updater, call, hdue, hstalls, hgiven⟩ := outcome?_eq_some h
  obtain ⟨-, hcall, hupdate⟩ := update_of_due hdue
  obtain ⟨w', hfetch, hw'⟩ := fetch_of_ok hcall hstalls hgiven
  refine ⟨w', ?_, hw'⟩
  rw [hupdate, hfetch]
  exact replaceSchedule_apply schedule w'

theorem update_of_no_schedule {w : World} (h : outcome? w = some (.ok none)) :
    ∃ updater w', w.surroundings.updater = some updater ∧
      update w = (.error (.noSchedule updater.name), w') ∧ Untouched w w' := by
  obtain ⟨updater, call, hdue, hstalls, hgiven⟩ := outcome?_eq_some h
  obtain ⟨hupdater, hcall, hupdate⟩ := update_of_due hdue
  obtain ⟨w', hfetch, hw'⟩ := fetch_of_ok hcall hstalls hgiven
  refine ⟨updater, w', hupdater, ?_, hw'⟩
  rw [hupdate, hfetch]
  rfl

theorem settle_of_inputOutput (updater : Updater) {cause : Failure}
    (h : cause.kind.isInputOutput = true) (w : World) :
    settle updater (.error cause) w = (.ok (), w.record [.noted (.updateFailed cause)]) := by
  simp only [settle, h, if_true, note_apply]

theorem settle_of_other (updater : Updater) {cause : Failure}
    (h : cause.kind.isInputOutput = false) (w : World) :
    settle updater (.error cause) w = (.error cause, w) := by
  simp only [settle, h, Bool.false_eq_true, if_false, fail_apply]

theorem update_of_failure {w : World} {cause : Failure} (h : outcome? w = some (.error cause)) :
    ∃ w', update w = (if cause.kind.isInputOutput then .ok () else .error cause, w') ∧
      Untouched w w' := by
  obtain ⟨updater, call, hdue, hstalls, hgiven⟩ := outcome?_eq_some h
  obtain ⟨-, hcall, hupdate⟩ := update_of_due hdue
  obtain ⟨cause', w', hfetch, hw', hcause⟩ := fetch_of_error hcall hstalls hgiven
  rw [hupdate, hfetch]
  -- A time-out that was reported is another failure by now, but of input and output as before.
  rcases hcause with rfl | ⟨htime, hkind⟩
  · rcases hkind : cause'.kind.isInputOutput with _ | _
    · exact ⟨w', settle_of_other updater hkind w', hw'⟩
    · exact ⟨_, settle_of_inputOutput updater hkind w', hw'.record _⟩
  · rw [htime]
    exact ⟨_, settle_of_inputOutput updater hkind w', hw'.record _⟩

/-- An update that is given no schedule leaves everything as it is. -/
theorem update_untouched {w : World}
    (h : ∀ schedule, outcome? w ≠ some (.ok (some schedule))) : Untouched w (update w).2 := by
  rcases houtcome : outcome? w with _ | cause | _ | schedule
  · obtain ⟨w', hupdate, hw'⟩ := update_of_none houtcome
    rwa [hupdate]
  · obtain ⟨w', hupdate, hw'⟩ := update_of_failure houtcome
    rwa [hupdate]
  · obtain ⟨_, w', -, hupdate, hw'⟩ := update_of_no_schedule houtcome
    rwa [hupdate]
  · exact absurd houtcome (h schedule)

/-- The two cases in which an update fails. -/
theorem update_error_iff {w : World} {cause : Failure} :
    (update w).1 = .error cause ↔
      (outcome? w = some (.ok none) ∧ ∃ updater, w.surroundings.updater = some updater ∧
        cause = .noSchedule updater.name) ∨
      (outcome? w = some (.error cause) ∧ cause.kind.isInputOutput = false) := by
  rcases houtcome : outcome? w with _ | cause' | _ | schedule
  · obtain ⟨w', hupdate, -⟩ := update_of_none houtcome
    simp [hupdate]
  · obtain ⟨w', hupdate, -⟩ := update_of_failure houtcome
    rw [hupdate]
    rcases hkind : cause'.kind.isInputOutput with _ | _
    · simp only [Bool.false_eq_true, if_false, Except.error.injEq, Option.some.injEq,
        reduceCtorEq, false_and, false_or]
      exact ⟨fun heq => ⟨heq, heq ▸ hkind⟩, fun heq => heq.1⟩
    · simp only [if_true, Except.error.injEq, Option.some.injEq, reduceCtorEq, false_and,
        false_or, false_iff, not_and]
      rintro rfl
      simp [hkind]
  · obtain ⟨updater, w', hupdater, hupdate, -⟩ := update_of_no_schedule houtcome
    rw [hupdate]
    constructor
    · intro heq
      exact .inl ⟨rfl, updater, hupdater, (Except.error.inj heq).symm⟩
    · rintro (⟨-, updater', hupdater', rfl⟩ | ⟨hno, -⟩)
      · rw [Option.some.inj (hupdater.symm.trans hupdater')]
      · simp at hno
  · obtain ⟨w', hupdate, -⟩ := update_of_schedule houtcome
    simp [hupdate]

/-! ### What is left around the scheduler -/

theorem fetch_surroundings {w : World} {updater : Updater} {call : UpdaterCall}
    (hcall : call = updater.call w.surroundings.file w.surroundings.calls) :
    (fetch updater w).2.surroundings = (begun call w).surroundings := by
  rcases hstalls : call.stalls with _ | _
  · subst hcall
    unfold fetch
    rw [world_bind, beginCall_bind, if_neg (by simp [hstalls]), bind_of_ok (attempt_apply _ _),
      logged_apply]
    rcases (updater.call w.surroundings.file w.surroundings.calls).gives.result with cause | _
    · by_cases htime : cause.kind = .timeout
      · simp only [if_pos htime]
        rfl
      · simp only [if_neg htime]
        rfl
    · rfl
  · rw [fetch_of_stalls hcall hstalls]

theorem settle_surroundings (updater : Updater) (outcome : Except Failure (Option Schedule))
    (w : World) : (settle updater outcome w).2.surroundings = w.surroundings := by
  rcases outcome with cause | _ | schedule
  · rcases hkind : cause.kind.isInputOutput with _ | _
    · rw [settle_of_other updater hkind]
    · rw [settle_of_inputOutput updater hkind]
      rfl
  · rfl
  · rw [settle, replaceSchedule_apply]
    rfl

/-- Around the scheduler an update leaves behind the call that it makes, if one is due, and
nothing else. -/
theorem update_surroundings (w : World) : (update w).2.surroundings =
    match callDue? w with
    | some (_, call) => (begun call w).surroundings
    | none => w.surroundings := by
  rcases hdue : callDue? w with _ | ⟨updater, call⟩
  · obtain ⟨events, hupdate⟩ := update_of_idle hdue
    rw [hupdate]
    rfl
  · obtain ⟨-, hcall, hupdate⟩ := update_of_due hdue
    rw [hupdate, settle_surroundings]
    exact fetch_surroundings hcall

/-! ### The schedule in force -/

theorem begin_installs {given : Logged Schedule} {schedule : Schedule}
    (hgiven : given.result = .ok schedule) (settings : Settings) (surroundings : Surroundings) :
    ∃ w', begin (some given) (World.initial settings surroundings) = (.ok (), w') ∧
      Installs schedule (World.initial settings surroundings) w' := by
  refine ⟨_, ?_, (remembers_initial settings surroundings).installs ((Untouched.refl _).record
    (given.notes.map fun n => .noted (.work n))) schedule⟩
  show (logged given >>= replaceSchedule) _ = _
  rw [bind_apply, logged_apply, hgiven]
  exact replaceSchedule_apply schedule _

/-- **In every world of a run the schedule in force is the one installed last, whole and in its
order.**  A schedule is installed when a scheduler is made with it, when it replaces the one
before, and when an update is given it in time.  What was told to the zones that are in it is
kept then, and what was told to all others is forgotten.  An update that is given no schedule
leaves everything as it is, and fails in two cases: its updater gives none at all, or fails by
something else than input and output. -/
theorem schedule_installed_whole {w : World} (h : Reachable w) :
    w.scheduler.schedule = lastInstalled w.trace.reverse ∧
      (∀ (given : Logged Schedule) schedule, given.result = .ok schedule →
        ∀ settings surroundings,
          ∃ w', begin (some given) (World.initial settings surroundings) = (.ok (), w') ∧
            Installs schedule (World.initial settings surroundings) w') ∧
      (∀ schedule, ∃ w', replaceSchedule schedule w = (.ok (), w') ∧ Installs schedule w w') ∧
      (∀ schedule, outcome? w = some (.ok (some schedule)) →
        ∃ w', update w = (.ok (), w') ∧ Installs schedule w w') ∧
      ((∀ schedule, outcome? w ≠ some (.ok (some schedule))) → Untouched w (update w).2) ∧
      ∀ cause, (update w).1 = .error cause ↔
        (outcome? w = some (.ok none) ∧ ∃ updater, w.surroundings.updater = some updater ∧
          cause = .noSchedule updater.name) ∨
        (outcome? w = some (.error cause) ∧ cause.kind.isInputOutput = false) := by
  have hw := h.remembers
  refine ⟨hw.schedule, fun _ _ => begin_installs, ?_, ?_, ?_, ?_⟩
  · intro schedule
    exact ⟨_, replaceSchedule_apply schedule w, hw.installs (.refl w) schedule⟩
  · intro schedule hgiven
    obtain ⟨w', hupdate, hw'⟩ := update_of_schedule hgiven
    exact ⟨_, hupdate, hw.installs hw' schedule⟩
  · exact update_untouched
  · intro cause
    exact update_error_iff

/-- The first update in the cottage installs the schedule once more; the second one is given none,
fails and leaves it in force. -/
theorem updates_of_cottage :
    (∃ w', update Cottage.made = (.ok (), w') ∧ Installs Cottage.plan Cottage.made w') ∧
      (update (take .update Cottage.made).2).1 = .error (.noSchedule "ScriptedUpdater") ∧
      Untouched (take .update Cottage.made).2 (update (take .update Cottage.made).2).2 := by
  have hfirst := schedule_installed_whole Cottage.reachable_made
  have hsecond := schedule_installed_whole (.taken .update Cottage.reachable_made)
  have hnone : outcome? (take .update Cottage.made).2 = some (.ok none) := rfl
  refine ⟨hfirst.2.2.2.1 _ rfl, (hsecond.2.2.2.2.2 _).2 (.inl ⟨hnone, _, rfl, rfl⟩),
    hsecond.2.2.2.2.1 fun schedule hgiven => ?_⟩
  rw [hnone] at hgiven
  cases hgiven

end ZonePlan.Scheduler
