/-
Sessions: a scheduler is made and steps are taken.

The steps that zones take of their own are steps like any other, so a step may lead to
further steps without an end in sight.  What bounds them is the world's budget: every time
that a zone takes its steps uses up one of its times, and the times that these steps can give
are counted in it.  The depth to which steps lead to steps is therefore at most the budget
before the first of them.
-/
import ZonePlan.Scheduler.Deviation
import ZonePlan.Scheduler.Refresh

namespace ZonePlan.Scheduler

open Act

/-! ### Steps -/

/-- The table to apply to a zone: the given one, or else the zone's own. -/
def tableOr (zone : Zone) : Option (Logged Table) → Act Table
  | some table => logged table
  | none => do return ((← world).scheduler.schedule.get? zone).getD ∅

/-- Changes how a zone behaves. -/
def changeConduct (zone : Zone) (f : Conduct → Conduct) : Act Unit :=
  changeSurroundings fun s =>
    { s with conducts := s.conducts.insert zone (f ((s.conducts.get? zone).getD .plain)) }

/-- Takes a step; `react` is what a zone does when its steps are due. -/
def perform (react : Zone → List Step → Act Unit) : Step → Act Answer
  | .tick => do
    tick react
    return .nothing
  | .update => do
    update
    return .nothing
  | .execute now => do
    execute react now
    return .nothing
  | .apply zone now table => do
    let table ← tableOr zone table
    apply react zone table now
    return .nothing
  | .replace schedule => do
    replaceSchedule (← logged schedule)
    return .nothing
  | .load resolve document => do
    replaceSchedule (← logged (Document.scheduleOf resolve document))
    return .nothing
  | .status zone => do return .status ((← world).status? zone)
  | .period zone => do return .period ((← world).period? zone)
  | .schedule => do return .schedule (← world).scheduler.schedule
  | .deviation zone setpoint enabled voting moment => do
    return .deviation (← deviation zone setpoint enabled voting moment)
  | .start => do
    start
    return .truth (← world).scheduler.running
  | .stop => do
    stop
    return .truth (← world).scheduler.running
  | .running => do return .truth (← world).scheduler.running
  | .granularity => do return .number (← world).scheduler.settings.granularity
  | .setClock clock => do
    changeSurroundings fun s => { s with clock }
    return .nothing
  | .setRefusal zone refusal => do
    changeConduct zone fun c => { c with refusal }
    return .nothing
  | .setHook zone steps times => do
    changeConduct zone fun c => { c with hook := steps, times }
    return .nothing
  | .writeFile content => do
    changeSurroundings fun s => { s with file := content }
    return .nothing
  | .deleteFile => do
    changeSurroundings fun s => { s with file := .absent }
    return .nothing
  | .release => do
    release
    return .nothing
  | .calls => do return .number (← world).surroundings.calls
  | .unfit _ cause => fail cause

/-- Takes the steps of a zone one after the other.  A failure of one is only its result. -/
def takeSteps (take : Step → Act Answer) (zone : Zone) : List Step → Act Unit
  | [] => pure ()
  | step :: rest => do
    let result ← attempt (take step)
    happen (.hooked zone step result)
    takeSteps take zone rest

/-- Takes a step that leads to further steps to a given depth at most. -/
def performTo : (depth : Nat) → Step → Act Answer
  | 0 => perform fun _ _ => pure ()
  | depth + 1 => perform (takeSteps (performTo depth))

/-- Takes a step. -/
def take (step : Step) : Act Answer := do
  performTo (← world).budget step

/-! ### Sessions -/

/-- Makes a scheduler.  Without a schedule and an updater it has nothing to do. -/
def begin (schedule : Option (Logged Schedule)) : Act Unit := do
  match schedule with
  | some schedule => replaceSchedule (← logged schedule)
  | none => if (← world).surroundings.updater.isNone then note .idle

/-- One turn of a session: what a step answered, and the worlds before and after it. -/
structure Turn where
  result : Except Failure Answer
  before : World
  after : World

/-- What happened in a turn. -/
def Turn.events (t : Turn) : List Event := t.after.trace.drop t.before.trace.length

/-- Takes a step. -/
def turn (step : Step) (w : World) : Turn :=
  let (result, after) := take step w
  ⟨result, w, after⟩

/-- Takes steps one after the other. -/
def turns : List Step → World → List Turn
  | [], _ => []
  | step :: rest, w =>
    let t := turn step w
    t :: turns rest t.after

/-- The world after steps were taken. -/
def afterAll (steps : List Step) (w : World) : World :=
  steps.foldl (fun w step => (turn step w).after) w

end ZonePlan.Scheduler
