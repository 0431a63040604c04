/-
Two worlds in step.

What is done in a world looks at no more of it than the scheduler, the clock, the zones' conducts
and what the updater gives in time; it never looks at the trace, nor at what a call gives once it
is too late.  Whether that is so is one question, asked of every definition alike.  `Lockstep`
says of a relation between worlds that they agree on all that is looked at and that they do so
again after each of the few things that can be done to both.  `take_parallel` then says that from
worlds so related a step gives the same answer and ends in worlds so related.

What is gained depends on the relation: with worlds that differ in what has happened before,
that the past makes no difference (`Proofs/Scheduler/Tick.lean`); with worlds that differ in what
comes too late, that it makes none (`Proofs/Scheduler/Late.lean`); with each world related to
itself alone, provided that something holds of it, that this is kept
(`Proofs/Scheduler/Calls.lean`).
-/
import ZonePlan.Proofs.Scheduler.Installed

namespace ZonePlan

/-- Two calls that are the same but for what they give once it is too late. -/
structure UpdaterCall.SameInTime (c d : UpdaterCall) : Prop where
  stalls : d.stalls = c.stalls
  inTime : c.stalls = false → d = c

/-- Two updaters that are called the same, and whose calls are the same in time. -/
structure Updater.SameInTime (u v : Updater) : Prop where
  name : v.name = u.name
  call : ∀ content number, (u.call content number).SameInTime (v.call content number)

theorem UpdaterCall.SameInTime.refl (c : UpdaterCall) : c.SameInTime c := ⟨rfl, fun _ => rfl⟩

theorem Updater.SameInTime.refl (u : Updater) : u.SameInTime u := ⟨rfl, fun _ _ => .refl _⟩

theorem Updater.sameInTime_self (u : Option Updater) : Option.Rel Updater.SameInTime u u := by
  rcases u with _ | u
  · exact .none
  · exact .some (.refl u)

namespace Scheduler

open Act

/-! ### Relations -/

/-- A relation between worlds that agree on all that is looked at, and that goes on to hold when
the same is done to both. -/
structure Lockstep (S : World → World → Prop) : Prop where
  scheduler : ∀ {w v}, S w v → v.scheduler = w.scheduler
  ahead : ∀ {w v}, S w v → v.surroundings.ahead = w.surroundings.ahead
  clock : ∀ {w v}, S w v → v.surroundings.clock = w.surroundings.clock
  conducts : ∀ {w v}, S w v → v.surroundings.conducts = w.surroundings.conducts
  file : ∀ {w v}, S w v → v.surroundings.file = w.surroundings.file
  calls : ∀ {w v}, S w v → v.surroundings.calls = w.surroundings.calls
  updater : ∀ {w v}, S w v →
    Option.Rel Updater.SameInTime w.surroundings.updater v.surroundings.updater
  updating : ∀ {w v}, S w v → v.isUpdating = w.isUpdating
  /-- The same happens. -/
  record : ∀ {w v}, S w v → ∀ events, S (w.record events) (v.record events)
  /-- The scheduler changes in something else than its last call. -/
  within : ∀ {w v}, S w v → ∀ {scheduler}, scheduler.lastCall = w.scheduler.lastCall →
    S { w with scheduler } { v with scheduler }
  /-- The surroundings change. -/
  around : ∀ {w v}, S w v → ∀ clock conducts file,
    S { w with surroundings := { w.surroundings with clock, conducts, file } }
      { v with surroundings := { v.surroundings with clock, conducts, file } }
  /-- A call that is due begins. -/
  call : ∀ {w v}, S w v → ∀ {u u' c d}, callDue? w = some (u, c) → callDue? v = some (u', d) →
    c.SameInTime d → S (begun c w) (begun d v)
  /-- The stalled calls come to their ends. -/
  release : ∀ {w v}, S w v → S (released w) (released v)

/-- Worlds with the same scheduler in the same surroundings agree on all that is looked at. -/
theorem Lockstep.of_same {S : World → World → Prop}
    (same : ∀ {w v}, S w v → v.scheduler = w.scheduler ∧ v.surroundings = w.surroundings)
    (record : ∀ {w v}, S w v → ∀ events, S (w.record events) (v.record events))
    (within : ∀ {w v}, S w v → ∀ {scheduler : Scheduler},
      scheduler.lastCall = w.scheduler.lastCall → S { w with scheduler } { v with scheduler })
    (around : ∀ {w v}, S w v → ∀ clock conducts file,
      S { w with surroundings := { w.surroundings with clock, conducts, file } }
        { v with surroundings := { v.surroundings with clock, conducts, file } })
    (call : ∀ {w v}, S w v → ∀ {updater call}, callDue? w = some (updater, call) →
      S (begun call w) (begun call v))
    (release : ∀ {w v}, S w v → S (released w) (released v)) : Lockstep S where
  scheduler h := (same h).1
  ahead h := by rw [(same h).2]
  clock h := by rw [(same h).2]
  conducts h := by rw [(same h).2]
  file h := by rw [(same h).2]
  calls h := by rw [(same h).2]
  updater h := by
    rw [(same h).2]
    exact Updater.sameInTime_self _
  updating h := by rw [World.isUpdating, World.isUpdating, (same h).1, (same h).2]
  record := record
  within := within
  around := around
  call {w v} h _ _ _ _ hw hv _ := by
    have hdue : callDue? v = callDue? w := by
      obtain ⟨hscheduler, hsurroundings⟩ := same h
      cases w
      cases v
      cases hscheduler
      cases hsurroundings
      rfl
    obtain ⟨-, rfl⟩ := Prod.ext_iff.1 (Option.some.inj (hw.symm.trans (hdue.symm.trans hv)))
    exact call h hw
  release := release

theorem Lockstep.updater_isNone {S : World → World → Prop} (hs : Lockstep S) {w v : World}
    (h : S w v) : v.surroundings.updater.isNone = w.surroundings.updater.isNone := by
  have hrel := hs.updater h
  generalize w.surroundings.updater = u at hrel
  generalize v.surroundings.updater = u' at hrel
  cases hrel with
  | some _ => rfl
  | none => rfl

/-- The same is given, and the worlds that it is given in are related. -/
def InStep {α : Type} (S : World → World → Prop) (r r' : Except Failure α × World) : Prop :=
  r'.1 = r.1 ∧ S r.2 r'.2

/-- An act that gives the same in related worlds and leaves them related. -/
def Parallel {α : Type} (S : World → World → Prop) (x : Act α) : Prop :=
  ∀ w v, S w v → InStep S (x w) (x v)

section Walk

variable {S : World → World → Prop} {α β : Type}

theorem InStep.bind {x y : Act α} {f : α → Act β} {w v : World} (hx : InStep S (x w) (y v))
    (hf : ∀ a, Parallel S (f a)) : InStep S ((x >>= f) w) ((y >>= f) v) := by
  rw [bind_apply, bind_apply]
  rcases hxw : x w with ⟨cause | a, w'⟩ <;> rcases hyv : y v with ⟨cause' | a', v'⟩ <;>
    rw [hxw, hyv] at hx <;> obtain ⟨hresult, hS⟩ := hx <;> cases hresult
  · exact ⟨rfl, hS⟩
  · exact hf a w' v' hS

theorem InStep.attempt {x y : Act α} {w v : World} (hx : InStep S (x w) (y v)) :
    InStep S (attempt x w) (Act.attempt y v) := by
  rw [attempt_apply, attempt_apply, hx.1]
  exact ⟨rfl, hx.2⟩

namespace Parallel

theorem bind {x : Act α} {f : α → Act β} (hx : Parallel S x) (hf : ∀ a, Parallel S (f a)) :
    Parallel S (x >>= f) := fun w v h => (hx w v h).bind hf

theorem attempt {x : Act α} (hx : Parallel S x) : Parallel S (attempt x) :=
  fun w v h => (hx w v h).attempt

theorem pure (a : α) : Parallel S (Pure.pure a) := fun _ _ h => ⟨rfl, h⟩

theorem fail (e : Failure) : Parallel S (Act.fail e : Act α) := fun _ _ h => ⟨rfl, h⟩

theorem ite {c : Prop} [Decidable c] {x y : Act α} (hx : Parallel S x) (hy : Parallel S y) :
    Parallel S (if c then x else y) := by
  split
  · exact hx
  · exact hy

/-- An act that begins by looking at the world. -/
theorem look {f : World → Act α} (h : ∀ w v, S w v → InStep S (f w w) (f v v)) :
    Parallel S (Act.world >>= f) := h

/-- An answer that is read off the world. -/
theorem answer {f : World → α} (h : ∀ {w v}, S w v → f v = f w) :
    Parallel S (Act.world >>= fun w => Pure.pure (f w)) :=
  look fun _ _ hS => ⟨congrArg Except.ok (h hS), hS⟩

end Parallel

/-! ### What zones have no part in -/

theorem happen_parallel (hs : Lockstep S) (e : Event) : Parallel S (happen e) :=
  fun _ _ h => ⟨rfl, hs.record h _⟩

theorem note_parallel (hs : Lockstep S) (n : Note) : Parallel S (note n) := happen_parallel hs _

theorem logged_parallel (hs : Lockstep S) (x : Logged α) : Parallel S (logged x) :=
  fun _ _ h => ⟨rfl, hs.record h _⟩

theorem changeScheduler_parallel (hs : Lockstep S) {f : Scheduler → Scheduler}
    (hf : ∀ s, (f s).lastCall = s.lastCall) : Parallel S (changeScheduler f) := by
  intro w v h
  rw [changeScheduler_apply, changeScheduler_apply, hs.scheduler h]
  exact ⟨rfl, hs.within h (hf w.scheduler)⟩

theorem replaceSchedule_parallel (hs : Lockstep S) (schedule : Schedule) :
    Parallel S (replaceSchedule schedule) := by
  intro w v h
  rw [replaceSchedule_apply, replaceSchedule_apply]
  refine ⟨rfl, ?_⟩
  unfold installed
  rw [hs.scheduler h]
  exact hs.within (hs.record h _) rfl

theorem settle_parallel (hs : Lockstep S) (updater : Updater)
    (outcome : Except Failure (Option Schedule)) : Parallel S (settle updater outcome) := by
  rcases outcome with cause | _ | schedule
  · exact Parallel.ite (note_parallel hs _) (Parallel.fail cause)
  · exact Parallel.fail _
  · exact replaceSchedule_parallel hs schedule

/-- Of an updater nothing but what it is called has a part in what its failures are. -/
theorem settle_congr {u u' : Updater} (h : u'.name = u.name) : settle u' = settle u := by
  funext outcome
  rcases outcome with cause | _ | schedule
  · rfl
  · simp only [settle, h]
  · rfl

theorem timeOut_parallel (hs : Lockstep S) : Parallel S timeOut :=
  Parallel.look fun _ _ h => ⟨by rw [fail_apply, fail_apply, hs.scheduler h], h⟩

/-- A call that is due in one world is due in the other. -/
theorem fetch_inStep (hs : Lockstep S) {w v : World} (h : S w v) {u u' : Updater}
    {c d : UpdaterCall} (hw : callDue? w = some (u, c)) (hv : callDue? v = some (u', d))
    (hcall : c.SameInTime d) : InStep S (fetch u w) (fetch u' v) := by
  obtain ⟨-, hc, -⟩ := update_of_due hw
  obtain ⟨-, hd, -⟩ := update_of_due hv
  have hbegun := hs.call h hw hv hcall
  unfold fetch
  rw [world_bind, world_bind, beginCall_bind, beginCall_bind, ← hc, ← hd, hcall.stalls]
  rcases hstalls : c.stalls with _ | _
  · obtain rfl := hcall.inTime hstalls
    refine InStep.bind (logged_parallel hs _ _ _ hbegun).attempt fun outcome => ?_
    rcases outcome with cause | schedule
    · exact Parallel.ite (timeOut_parallel hs) (Parallel.fail cause)
    · exact Parallel.pure schedule
  · exact timeOut_parallel hs _ _ hbegun

theorem update_parallel (hs : Lockstep S) : Parallel S update := by
  intro w v h
  have hupdater := hs.updater h
  rcases hu : w.surroundings.updater with _ | u <;>
    rcases hu' : v.surroundings.updater with _ | u' <;>
      rw [hu, hu'] at hupdater <;> cases hupdater
  · rw [update_of_no_updater hu, update_of_no_updater hu']
    exact ⟨rfl, hs.record h _⟩
  · rename_i hsame
    have hupdating := hs.updating h
    rcases hbusy : w.isUpdating with _ | _
    · have hw := callDue?_of_quiet hu hbusy
      have hv := callDue?_of_quiet hu' (hupdating.trans hbusy)
      rw [hs.file h, hs.calls h] at hv
      have hfetch := fetch_inStep hs h hw hv (hsame.call _ _)
      rw [(update_of_due hw).2.2, (update_of_due hv).2.2, settle_congr hsame.name, hfetch.1]
      exact settle_parallel hs u _ _ _ hfetch.2
    · rw [update_of_busy hu hbusy, update_of_busy hu' (hupdating.trans hbusy)]
      exact ⟨rfl, hs.record h _⟩

theorem refresh_parallel (hs : Lockstep S) : Parallel S refresh := by
  refine Parallel.bind (Parallel.attempt (update_parallel hs)) fun outcome => ?_
  rcases outcome with cause | _
  · exact note_parallel hs _
  · exact Parallel.pure ()

theorem release_parallel (hs : Lockstep S) : Parallel S release := by
  intro w v h
  rw [release_apply, release_apply]
  exact ⟨rfl, hs.release h⟩

theorem start_parallel (hs : Lockstep S) : Parallel S start := by
  refine Parallel.look fun w v h => ?_
  rw [hs.scheduler h]
  refine Parallel.ite (note_parallel hs _) (Parallel.ite (Parallel.fail _) ?_) w v h
  exact Parallel.bind (changeScheduler_parallel hs fun _ => rfl) fun _ => note_parallel hs _

theorem stop_parallel (hs : Lockstep S) : Parallel S stop := by
  refine Parallel.bind (changeScheduler_parallel hs fun _ => rfl) fun _ => ?_
  refine Parallel.look fun w v h => ?_
  rw [hs.scheduler h]
  refine Parallel.ite ?_ (Parallel.pure ()) w v h
  exact Parallel.bind (changeScheduler_parallel hs fun _ => rfl) fun _ => note_parallel hs _

theorem clock_parallel (hs : Lockstep S) :
    Parallel S (world >>= fun w => ofExcept w.surroundings.clock) :=
  Parallel.look fun _ _ h => ⟨hs.clock h, h⟩

theorem momentOfComparison_parallel (hs : Lockstep S) (given : Option When) :
    Parallel S (momentOfComparison given) := by
  rcases given with _ | now
  · exact clock_parallel hs
  · exact Parallel.pure now

theorem momentOr_parallel (hs : Lockstep S) (given : Option When) :
    Parallel S (momentOr given) := by
  rcases given with _ | now
  · exact clock_parallel hs
  · exact Parallel.ite (Parallel.pure now) (clock_parallel hs)

theorem compareWith_parallel (hs : Lockstep S) (zone : Zone) (status : Status) (setpoint : Double)
    (enabled voting : Bool) : Parallel S (compareWith zone status setpoint enabled voting) :=
  Parallel.ite (Parallel.bind (note_parallel hs _) fun _ => Parallel.pure _)
    (Parallel.bind (note_parallel hs _) fun _ => Parallel.pure _)

theorem deviation_parallel (hs : Lockstep S) (zone : Zone) (setpoint : Double)
    (enabled voting : Bool) (given : Option When) :
    Parallel S (deviation zone setpoint enabled voting given) := by
  refine Parallel.bind (momentOfComparison_parallel hs given) fun moment => ?_
  refine Parallel.look fun w v h => ?_
  rw [hs.scheduler h, hs.ahead h]
  rcases w.scheduler.schedule.get? zone with _ | table
  · exact Parallel.bind (note_parallel hs _) (fun _ => Parallel.pure _) w v h
  · refine Parallel.bind (logged_parallel hs _) (fun found => ?_) w v h
    rcases found with _ | ⟨_, status⟩
    · exact Parallel.bind (note_parallel hs _) fun _ => Parallel.pure _
    · exact compareWith_parallel hs _ _ _ _ _

theorem tableOr_parallel (hs : Lockstep S) (zone : Zone) (table : Option (Logged Table)) :
    Parallel S (tableOr zone table) := by
  rcases table with _ | table
  · exact Parallel.answer fun h => by rw [hs.scheduler h]
  · exact logged_parallel hs table

/-- A change of the surroundings that comes to the same in both worlds. -/
theorem changeSurroundings_parallel (hs : Lockstep S) {f : Surroundings → Surroundings}
    (hf : ∀ s s', s'.clock = s.clock → s'.conducts = s.conducts → s'.file = s.file →
      ∃ clock conducts file, f s = { s with clock, conducts, file } ∧
        f s' = { s' with clock, conducts, file }) : Parallel S (changeSurroundings f) := by
  intro w v h
  obtain ⟨clock, conducts, file, hw, hv⟩ := hf _ _ (hs.clock h) (hs.conducts h) (hs.file h)
  rw [changeSurroundings_apply, changeSurroundings_apply, hw, hv]
  exact ⟨rfl, hs.around h clock conducts file⟩

theorem changeConduct_parallel (hs : Lockstep S) (zone : Zone) (f : Conduct → Conduct) :
    Parallel S (changeConduct zone f) :=
  changeSurroundings_parallel hs fun s s' hclock hconducts hfile =>
    ⟨_, _, _, rfl, by rw [← hclock, ← hconducts, ← hfile]⟩

theorem useHook_parallel (hs : Lockstep S) (zone : Zone) :
    Parallel S (changeSurroundings (useHook zone)) :=
  changeSurroundings_parallel hs fun s s' hclock hconducts hfile =>
    ⟨_, _, _, rfl, by unfold useHook; rw [← hclock, ← hconducts, ← hfile]⟩

/-! ### What zones have a part in -/

variable {react : Zone → List Step → Act Unit}

theorem letAct_parallel (hs : Lockstep S) (hr : ∀ zone steps, Parallel S (react zone steps))
    (zone : Zone) : Parallel S (letAct react zone) := by
  refine Parallel.look fun w v h => ?_
  rw [World.conduct, World.conduct, hs.conducts h]
  refine Parallel.ite ?_ (Parallel.pure ()) w v h
  exact Parallel.bind (useHook_parallel hs zone) fun _ => hr zone _

theorem conclude_parallel (hs : Lockstep S) (zone : Zone) (period : Period) (status : Status) :
    Parallel S (conclude zone period status) := by
  refine Parallel.look fun w v h => ?_
  rw [World.conduct, World.conduct, hs.conducts h]
  rcases ((w.surroundings.conducts.get? zone).getD .plain).refusal with _ | cause
  · exact happen_parallel hs _ w v h
  · exact Parallel.bind (happen_parallel hs _) (fun _ => Parallel.fail cause) w v h

theorem tell_parallel (hs : Lockstep S) (hr : ∀ zone steps, Parallel S (react zone steps))
    (zone : Zone) (period : Period) (status : Status) :
    Parallel S (tell react zone period status) :=
  Parallel.bind (happen_parallel hs _) fun _ =>
    Parallel.bind (letAct_parallel hs hr zone) fun _ => conclude_parallel hs zone period status

theorem push_parallel (hs : Lockstep S) (hr : ∀ zone steps, Parallel S (react zone steps))
    (zone : Zone) (period : Period) (status : Status) :
    Parallel S (push react zone period status) := by
  refine Parallel.look fun w v h => ?_
  rw [wasTold, wasTold, World.status?, World.status?, hs.scheduler h]
  refine Parallel.ite ?_ (Parallel.pure ()) w v h
  refine Parallel.bind (tell_parallel hs hr zone period status) fun _ => ?_
  refine Parallel.look fun w' v' h' => ?_
  rw [hs.scheduler h']
  refine Parallel.ite ?_ (Parallel.pure ()) w' v' h'
  exact Parallel.bind (changeScheduler_parallel hs fun _ => rfl) fun _ => note_parallel hs _

theorem apply_parallel (hs : Lockstep S) (hr : ∀ zone steps, Parallel S (react zone steps))
    (zone : Zone) (table : Table) (now : When) : Parallel S (apply react zone table now) := by
  refine Parallel.look fun w v h => ?_
  rw [hs.scheduler h, hs.ahead h]
  refine Parallel.ite ?_ (note_parallel hs _) w v h
  refine Parallel.bind (logged_parallel hs _) fun found => ?_
  rcases found with _ | ⟨period, status⟩
  · exact Parallel.bind (note_parallel hs _) fun _ => changeScheduler_parallel hs fun _ => rfl
  · exact push_parallel hs hr zone period status

theorem visit_parallel (hs : Lockstep S) (hr : ∀ zone steps, Parallel S (react zone steps))
    (now : When) (entry : Zone × Copy) : Parallel S (visit react now entry) := by
  refine Parallel.look fun w v h => ?_
  rw [hs.scheduler h]
  refine Parallel.ite ?_ (note_parallel hs _) w v h
  refine Parallel.bind (Parallel.attempt (apply_parallel hs hr _ _ _)) fun outcome => ?_
  rcases outcome with cause | _
  · exact note_parallel hs _
  · exact Parallel.pure ()

theorem visitAll_parallel (hs : Lockstep S) (hr : ∀ zone steps, Parallel S (react zone steps))
    (now : When) (entries : List (Zone × Copy)) : Parallel S (visitAll react now entries) := by
  induction entries with
  | nil => exact Parallel.pure ()
  | cons entry rest ih => exact Parallel.bind (visit_parallel hs hr now entry) fun _ => ih

theorem execute_parallel (hs : Lockstep S) (hr : ∀ zone steps, Parallel S (react zone steps))
    (given : Option When) : Parallel S (execute react given) := by
  refine Parallel.bind (momentOr_parallel hs given) fun now => ?_
  refine Parallel.look fun w v h => ?_
  rw [hs.scheduler h]
  exact visitAll_parallel hs hr now _ w v h

theorem tick_parallel (hs : Lockstep S) (hr : ∀ zone steps, Parallel S (react zone steps)) :
    Parallel S (tick react) := by
  refine Parallel.bind (note_parallel hs _) fun _ => ?_
  have hrun := Parallel.bind (refresh_parallel hs) fun _ => execute_parallel hs hr none
  refine Parallel.bind (Parallel.attempt hrun) fun outcome => ?_
  rcases outcome with cause | _
  · exact Parallel.bind (note_parallel hs _) fun _ => note_parallel hs _
  · exact note_parallel hs _

/-! ### Steps -/

theorem perform_parallel (hs : Lockstep S) (hr : ∀ zone steps, Parallel S (react zone steps))
    (step : Step) : Parallel S (perform react step) := by
  have answered : ∀ {β : Type} {x : Act β} {f : β → Answer}, Parallel S x →
      Parallel S (x >>= fun b => Pure.pure (f b)) :=
    fun h => Parallel.bind h fun _ => Parallel.pure _
  cases step with
  | tick => exact answered (tick_parallel hs hr)
  | update => exact answered (update_parallel hs)
  | execute now => exact answered (execute_parallel hs hr now)
  | apply zone now table =>
    exact Parallel.bind (tableOr_parallel hs zone table) fun table =>
      answered (apply_parallel hs hr zone table now)
  | replace schedule =>
    exact Parallel.bind (logged_parallel hs schedule) fun schedule =>
      answered (replaceSchedule_parallel hs schedule)
  | load resolve document =>
    exact Parallel.bind (logged_parallel hs _) fun schedule =>
      answered (replaceSchedule_parallel hs schedule)
  | status zone => exact Parallel.answer fun h => by simp only [World.status?, hs.scheduler h]
  | period zone => exact Parallel.answer fun h => by simp only [World.period?, hs.scheduler h]
  | schedule => exact Parallel.answer fun h => by rw [hs.scheduler h]
  | deviation zone setpoint enabled voting moment =>
    exact answered (deviation_parallel hs zone setpoint enabled voting moment)
  | start =>
    exact Parallel.bind (start_parallel hs) fun _ => Parallel.answer fun h => by rw [hs.scheduler h]
  | stop =>
    exact Parallel.bind (stop_parallel hs) fun _ => Parallel.answer fun h => by rw [hs.scheduler h]
  | running => exact Parallel.answer fun h => by rw [hs.scheduler h]
  | granularity => exact Parallel.answer fun h => by rw [hs.scheduler h]
  | setClock clock =>
    exact answered (changeSurroundings_parallel hs fun s s' _ hconducts hfile =>
      ⟨_, _, _, rfl, by rw [← hconducts, ← hfile]⟩)
  | setRefusal zone refusal => exact answered (changeConduct_parallel hs zone _)
  | setHook zone steps times => exact answered (changeConduct_parallel hs zone _)
  | writeFile content =>
    exact answered (changeSurroundings_parallel hs fun s s' hclock hconducts _ =>
      ⟨_, _, _, rfl, by rw [← hclock, ← hconducts]⟩)
  | deleteFile =>
    exact answered (changeSurroundings_parallel hs fun s s' hclock hconducts _ =>
      ⟨_, _, _, rfl, by rw [← hclock, ← hconducts]⟩)
  | release => exact answered (release_parallel hs)
  | calls => exact Parallel.answer fun h => by rw [hs.calls h]
  | unfit name cause => exact Parallel.fail cause

theorem takeSteps_parallel (hs : Lockstep S) {take : Step → Act Answer}
    (h : ∀ step, Parallel S (take step)) (zone : Zone) (steps : List Step) :
    Parallel S (takeSteps take zone steps) := by
  induction steps with
  | nil => exact Parallel.pure ()
  | cons step rest ih =>
    exact Parallel.bind (Parallel.attempt (h step)) fun _ =>
      Parallel.bind (happen_parallel hs _) fun _ => ih

theorem performTo_parallel (hs : Lockstep S) (depth : Nat) (step : Step) :
    Parallel S (performTo depth step) := by
  induction depth generalizing step with
  | zero => exact perform_parallel hs (fun _ _ => Parallel.pure ()) step
  | succ depth ih => exact perform_parallel hs (takeSteps_parallel hs ih) step

/-- **A step gives the same answer in worlds that are in step, and they stay in step**, whatever
zones do meanwhile and however deep that goes. -/
theorem take_parallel (hs : Lockstep S) (step : Step) : Parallel S (take step) := by
  refine Parallel.look fun w v h => ?_
  rw [World.budget, World.budget, hs.conducts h]
  exact performTo_parallel hs _ step w v h

theorem hooks_parallel (hs : Lockstep S) (zone : Zone) (steps : List Step) :
    Parallel S (takeSteps take zone steps) := takeSteps_parallel hs (take_parallel hs) zone steps

theorem begin_parallel (hs : Lockstep S) (schedule : Option (Logged Schedule)) :
    Parallel S (begin schedule) := by
  rcases schedule with _ | schedule
  · refine Parallel.look fun w v h => ?_
    rw [hs.updater_isNone h]
    exact Parallel.ite (note_parallel hs _) (Parallel.pure ()) w v h
  · exact Parallel.bind (logged_parallel hs schedule) fun schedule =>
      replaceSchedule_parallel hs schedule

/-- **A session gives the same answers from worlds that are in step, and they stay in step.** -/
theorem turns_parallel (hs : Lockstep S) (steps : List Step) {w v : World} (h : S w v) :
    (turns steps v).map (·.result) = (turns steps w).map (·.result) ∧
      S (afterAll steps w) (afterAll steps v) := by
  induction steps generalizing w v with
  | nil => exact ⟨rfl, h⟩
  | cons step rest ih =>
    obtain ⟨hresult, hS⟩ := take_parallel hs step w v h
    obtain ⟨hresults, hend⟩ := ih hS
    refine ⟨?_, hend⟩
    rw [turns, turns, List.map_cons, List.map_cons]
    exact congrArg₂ List.cons hresult hresults

end Walk

end Scheduler
end ZonePlan
