/-
What a run is made of, and the worlds it comes through.

A `Move` is one of the few things that can happen to a world, and `take_moves` says that a
step is a row of moves, whatever zones do while they are set and however deep that goes.

`Reachable` is every world in which something else than the scheduler can look at it: between
two steps of a session, in a run when the updater is about to be called and again when the clock
is about to be asked, in the middle of a telling when a zone is about to take its steps, and
between two of these, to any depth.  An invariant is shown of all of them by showing that it
holds of a scheduler that was just made and that each move keeps it (`Reachable.induct`).  How a run
goes on from one of them is said by `Onward`.
-/
import Mathlib.Logic.Relation
import ZonePlan.Proofs.Scheduler.Depth

namespace ZonePlan.Scheduler

open Act

/-! ### Moves -/

/-- One of the few things that happen to a world. -/
inductive Move : World → World → Prop
  | idle (w : World) (e : Event) (h : e.isIdle = true) : Move w (w.record [e])
  | outside (w : World) (s : Surroundings) (h : s.ahead = w.surroundings.ahead) :
      Move w { w with surroundings := s }
  | control (w : World) (running : Bool) (lastCall : Option Nat) (hasWorker : Bool) :
      Move w { w with scheduler := { w.scheduler with running, lastCall, hasWorker } }
  | install (w : World) (schedule : Schedule) : Move w (installed schedule w)
  | vacate (w : World) (zone : Zone) (h : w.scheduler.schedule.has zone = true) :
      Move w (vacated zone w)
  | adopt (w : World) (zone : Zone) (period : Period) (status : Status) :
      Move w (adopted zone period status w)

/-- A row of moves. -/
abbrev Moves : World → World → Prop := Relation.ReflTransGen Move

theorem moves_course : Course (fun _ => True) Moves where
  refl _ := .refl
  trans h h' := h.trans h'
  keeps h _ := h
  idle w e h := .single (.idle w e h)
  outside w s h _ := .single (.outside w s h)
  control w running lastCall hasWorker := .single (.control w running lastCall hasWorker)
  install w schedule := .single (.install w schedule)
  vacate w zone h := .single (.vacate w zone h)
  adopt w zone period status := .single (.adopt w zone period status)

theorem record_moves {events : List Event} (h : ∀ e ∈ events, e.isIdle = true) (w : World) :
    Moves w (w.record events) := by
  induction events generalizing w with
  | nil => rw [World.record_nil]
  | cons e rest ih =>
    have hrest := ih (fun e' he' => h e' (List.mem_cons_of_mem _ he')) (w.record [e])
    rw [World.record_record] at hrest
    exact .head (.idle w e (h e List.mem_cons_self)) hrest

theorem useHook_ahead (zone : Zone) (s : Surroundings) : (useHook zone s).ahead = s.ahead := rfl

theorem asked_moves (zone : Zone) (period : Period) (status : Status) (w : World) :
    Moves w (asked zone period status w) :=
  .tail (.single (.idle w (.told zone period status) rfl))
    (.outside (w.record [.told zone period status]) _ (useHook_ahead zone w.surroundings))

/-- Zones that move the world. -/
def Moving (react : Zone → List Step → Act Unit) : Prop :=
  ∀ zone steps w, Moves w (react zone steps w).2

theorem Moving.reacts {react : Zone → List Step → Act Unit} (h : Moving react) :
    Reacts (fun _ => True) Moves react react :=
  fun zone period status w _ _ =>
    ⟨rfl, (asked_moves zone period status w).trans (h zone _ (asked zone period status w))⟩

theorem Moving.applies {react : Zone → List Step → Act Unit} (h : Moving react) :
    Applies (fun _ => True) Moves react react := h.reacts.applies moves_course

theorem perform_moves {react : Zone → List Step → Act Unit} (h : Moving react) (step : Step)
    (w : World) : Moves w (perform react step w).2 := by
  rcases hstep : step.changesConduct with _ | _
  · exact (perform_follows moves_course.zoneless h.applies hstep w trivial).2
  · cases step with
    | setRefusal zone refusal => exact .single (.outside w _ rfl)
    | setHook zone steps times => exact .single (.outside w _ rfl)
    | _ => simp [Step.changesConduct] at hstep

theorem takeSteps_moves {take : Step → Act Answer} (h : ∀ step w, Moves w (take step w).2) :
    Moving (takeSteps take) := by
  intro zone steps
  induction steps with
  | nil => exact fun w => .refl
  | cons step rest ih =>
    intro w
    have hhooked := Move.idle (take step w).2 (.hooked zone step (take step w).1) rfl
    exact ((h step w).tail hhooked).trans (ih _)

theorem performTo_moves (depth : Nat) : ∀ step w, Moves w (performTo depth step w).2 := by
  induction depth with
  | zero => exact perform_moves fun _ _ _ => .refl
  | succ depth ih => exact perform_moves (takeSteps_moves ih)

/-- **A step is a row of moves.** -/
theorem take_moves (step : Step) (w : World) : Moves w (take step w).2 :=
  performTo_moves w.budget step w

theorem takeSteps_take_moving : Moving (takeSteps take) := takeSteps_moves take_moves

theorem visit_moves (now : When) (entry : Zone × Copy) (w : World) :
    Moves w (visit (takeSteps take) now entry w).2 :=
  (visit_follows moves_course.zoneless takeSteps_take_moving.applies now entry w trivial).2

theorem visitAll_moves (now : When) (entries : List (Zone × Copy)) (w : World) :
    Moves w (visitAll (takeSteps take) now entries w).2 :=
  (visitAll_follows moves_course.zoneless takeSteps_take_moving.applies now entries w trivial).2

theorem begin_moves (schedule : Option (Logged Schedule)) (w : World) :
    Moves w (begin schedule w).2 := (begin_follows moves_course.zoneless schedule w trivial).2

/-! ### The worlds of a run -/

/-- Applying a table to a zone in one world comes to telling the zone a status that is in
force, and in the other world the zone takes its steps. -/
inductive Telling (zone : Zone) (table : Table) (now : When) (w : World) : World → Prop
  | intro {period : Period} {status : Status} (hhas : w.scheduler.schedule.has zone = true)
      (hforce : table.inForceAt w.surroundings.ahead now = .ok (some (period, status)))
      (hnew : wasTold w zone status = false) :
      Telling zone table now w
        (asked zone period status (w.record [.noted (.work (.periodMatches period now))]))

/-- While a step is taken in one world, a table is about to be applied to a zone in another: the
step says so, or the zone is visited in an execution. -/
inductive Begins : Step → World → Zone → Table → When → World → Prop
  | apply {zone : Zone} {now : When} {given : Option (Logged Table)} {table : Table} {w v : World}
      (htable : tableOr zone given w = (.ok table, v)) :
      Begins (.apply zone now given) w zone table now v
  | execute {given : Option When} {now : When} {visited rest : List (Zone × Copy)}
      {entry : Zone × Copy} {w v : World} (hnow : momentOr given w = (.ok now, w))
      (hsnapshot : w.scheduler.snapshot = visited ++ entry :: rest)
      (hvisited : visitAll (takeSteps take) now visited w = (.ok (), v))
      (hlive : v.scheduler.isLive entry.1 entry.2 = true) :
      Begins (.execute given) w entry.1 entry.2.table now v
  | tick {zone : Zone} {table : Table} {now : When} {w v : World}
      (h : Begins (.execute none) (refresh (w.record [.noted .checking])).2 zone table now v) :
      Begins .tick w zone table now v

/-- While a step is taken in one world, the other is met: a zone is being told a status, and
takes its steps. -/
inductive Meets (step : Step) (w w' : World) : Prop
  | intro {zone : Zone} {table : Table} {now : When} {v : World}
      (hbegins : Begins step w zone table now v) (h : Telling zone table now v w') : Meets step w w'

/-- A world in which something else than the scheduler can look at it. -/
inductive Reachable : World → Prop
  /-- A scheduler was made. -/
  | begun (settings : Settings) (surroundings : Surroundings)
      (schedule : Option (Logged Schedule)) :
      Reachable (begin schedule (World.initial settings surroundings)).2
  /-- A step was taken. -/
  | taken {w : World} (step : Step) (h : Reachable w) : Reachable (take step w).2
  /-- A run has begun, and the schedule is about to be refreshed. -/
  | checking {w : World} (h : Reachable w) : Reachable (w.record [.noted .checking])
  /-- A run has refreshed the schedule, and is about to apply it. -/
  | refreshed {w : World} (h : Reachable w) :
      Reachable (refresh (w.record [.noted .checking])).2
  /-- A zone is about to take its steps. -/
  | met {w w' : World} {step : Step} (h : Reachable w) (hmeets : Meets step w w') : Reachable w'
  /-- A zone has taken one of its steps. -/
  | hooked {w : World} (zone : Zone) (step : Step) (h : Reachable w) :
      Reachable ((take step w).2.record [.hooked zone step (take step w).1])

theorem Telling.moves {zone : Zone} {table : Table} {now : When} {w w' : World}
    (h : Telling zone table now w w') : Moves w w' := by
  obtain ⟨_, _, _⟩ := h
  exact .trans (.single (.idle w _ rfl)) (asked_moves zone _ _ _)

theorem refresh_moves (w : World) : Moves w (refresh (w.record [.noted .checking])).2 :=
  (Relation.ReflTransGen.single (.idle w _ rfl)).trans
    (refresh_follows moves_course.zoneless _ trivial).2

theorem Begins.moves {step : Step} {zone : Zone} {table : Table} {now : When} {w v : World}
    (h : Begins step w zone table now v) : Moves w v := by
  induction h with
  | @apply zone _ given table w v htable =>
    have htabled := (tableOr_follows moves_course.zoneless zone given w trivial).2
    rwa [htable] at htabled
  | @execute _ now visited _ _ w v _ _ hvisited _ =>
    have hvisits := visitAll_moves now visited w
    rwa [hvisited] at hvisits
  | @tick _ _ _ w _ _ ih => exact (refresh_moves w).trans ih

theorem Meets.moves {step : Step} {w w' : World} (h : Meets step w w') : Moves w w' := by
  obtain ⟨hbegins, htelling⟩ := h
  exact hbegins.moves.trans htelling.moves

/-- Every reachable world is a row of moves away from one in which a scheduler was made. -/
theorem Reachable.moves {w : World} (h : Reachable w) :
    ∃ settings surroundings, Moves (World.initial settings surroundings) w := by
  induction h with
  | begun settings surroundings schedule => exact ⟨settings, surroundings, begin_moves _ _⟩
  | taken step _ ih =>
    obtain ⟨settings, surroundings, h⟩ := ih
    exact ⟨settings, surroundings, h.trans (take_moves step _)⟩
  | checking _ ih =>
    obtain ⟨settings, surroundings, h⟩ := ih
    exact ⟨settings, surroundings, h.tail (.idle _ _ rfl)⟩
  | refreshed _ ih =>
    obtain ⟨settings, surroundings, h⟩ := ih
    exact ⟨settings, surroundings, h.trans (refresh_moves _)⟩
  | met _ hmeets ih =>
    obtain ⟨settings, surroundings, h⟩ := ih
    exact ⟨settings, surroundings, h.trans hmeets.moves⟩
  | hooked zone step _ ih =>
    obtain ⟨settings, surroundings, h⟩ := ih
    exact ⟨settings, surroundings, (h.trans (take_moves step _)).tail (.idle _ _ rfl)⟩

/-- A session comes through reachable worlds. -/
theorem Reachable.afterAll {w : World} (h : Reachable w) (steps : List Step) :
    Reachable (afterAll steps w) := by
  induction steps generalizing w with
  | nil => exact h
  | cons step rest ih => exact ih (h.taken step)

/-! ### How a run goes on -/

/-- One of the worlds that a run comes through next. -/
inductive Onward : World → World → Prop
  /-- A step is taken. -/
  | taken (step : Step) (w : World) : Onward w (take step w).2
  /-- A run begins, and the schedule is about to be refreshed. -/
  | checking (w : World) : Onward w (w.record [.noted .checking])
  /-- A run has refreshed the schedule, and is about to apply it. -/
  | refreshed (w : World) : Onward w (refresh (w.record [.noted .checking])).2
  /-- A zone is about to take its steps. -/
  | met {w w' : World} {step : Step} (hmeets : Meets step w w') : Onward w w'
  /-- A zone has taken one of its steps. -/
  | hooked (zone : Zone) (step : Step) (w : World) :
      Onward w ((take step w).2.record [.hooked zone step (take step w).1])

/-- A row of such worlds. -/
abbrev Runs : World → World → Prop := Relation.ReflTransGen Onward

/-- The reachable worlds are those that runs come through. -/
theorem reachable_iff_runs {w : World} : Reachable w ↔
    ∃ settings surroundings schedule,
      Runs (begin schedule (World.initial settings surroundings)).2 w := by
  constructor
  · intro h
    induction h with
    | begun settings surroundings schedule => exact ⟨settings, surroundings, schedule, .refl⟩
    | taken step _ ih =>
      obtain ⟨settings, surroundings, schedule, h⟩ := ih
      exact ⟨settings, surroundings, schedule, h.tail (.taken step _)⟩
    | checking _ ih =>
      obtain ⟨settings, surroundings, schedule, h⟩ := ih
      exact ⟨settings, surroundings, schedule, h.tail (.checking _)⟩
    | refreshed _ ih =>
      obtain ⟨settings, surroundings, schedule, h⟩ := ih
      exact ⟨settings, surroundings, schedule, h.tail (.refreshed _)⟩
    | met _ hmeets ih =>
      obtain ⟨settings, surroundings, schedule, h⟩ := ih
      exact ⟨settings, surroundings, schedule, h.tail (.met hmeets)⟩
    | hooked zone step _ ih =>
      obtain ⟨settings, surroundings, schedule, h⟩ := ih
      exact ⟨settings, surroundings, schedule, h.tail (.hooked zone step _)⟩
  · rintro ⟨settings, surroundings, schedule, h⟩
    induction h with
    | refl => exact .begun settings surroundings schedule
    | tail _ honward ih =>
      cases honward with
      | taken step => exact ih.taken step
      | checking => exact ih.checking
      | refreshed => exact ih.refreshed
      | met hmeets => exact ih.met hmeets
      | hooked zone step => exact ih.hooked zone step

/-! ### What moves keep -/

theorem Move.ahead {w w' : World} (h : Move w w') :
    w'.surroundings.ahead = w.surroundings.ahead := by
  cases h with
  | outside s hs => exact hs
  | adopt zone period status =>
    unfold adopted
    split
    · rfl
    · rfl
  | _ => rfl

theorem Moves.ahead {w w' : World} (h : Moves w w') :
    w'.surroundings.ahead = w.surroundings.ahead := by
  induction h with
  | refl => rfl
  | tail _ hlast ih => exact hlast.ahead.trans ih

/-- What each move keeps is kept by a row of moves. -/
theorem Moves.keep {I : World → Prop} (hmove : ∀ {w w'}, Move w w' → I w → I w') {w w' : World}
    (h : Moves w w') (hw : I w) : I w' := by
  induction h with
  | refl => exact hw
  | tail _ hlast ih => exact hmove hlast ih

/-- **What holds of a scheduler that was just made and is kept by each move holds in every
reachable world.** -/
theorem Reachable.induct {I : World → Prop}
    (hinitial : ∀ settings surroundings, I (World.initial settings surroundings))
    (hmove : ∀ {w w'}, Move w w' → I w → I w') {w : World} (h : Reachable w) : I w := by
  obtain ⟨settings, surroundings, hmoves⟩ := h.moves
  exact Moves.keep hmove hmoves (hinitial settings surroundings)

/-! ### A cottage

A scheduler with two zones, for statements about a run in particular.  While the den is told
its status it installs the schedule once more.  The updater gives the same schedule once and
none from then on.
-/

namespace Cottage

def den : Zone := ⟨"den", "den"⟩

def porch : Zone := ⟨"porch", "porch"⟩

def allDay : Period where
  name := "all day"
  start := 0
  finish := millisPerDay
  days := Period.everyDay
  name_ne := by decide
  start_add_le := by decide
  finish_le := by decide
  days_lt := by decide

def warm : Status := ⟨.zero false, 0, true, true⟩

def noon : When := .moment ⟨0, 12 * 60 * Calendar.microsPerMinute, by decide, none⟩

def table : Table := ⟨[(allDay, warm)], by decide⟩

def plan : Schedule := ⟨[(den, table), (porch, table)], by decide⟩

def surroundings : Surroundings where
  ahead := 0
  clock := .ok noon
  conducts := ⟨[(den, ⟨none, [.replace (pure plan)], 1⟩)], by decide⟩
  updater := some (.scripted [⟨false, pure (some plan)⟩, ⟨false, pure none⟩])
  file := .absent
  calls := 0
  stalled := ∅

/-- The world in which the scheduler of the cottage was made. -/
def made : World := (begin (some (pure plan)) (World.initial .default surroundings)).2

theorem reachable_made : Reachable made := .begun _ _ _

end Cottage
end ZonePlan.Scheduler
