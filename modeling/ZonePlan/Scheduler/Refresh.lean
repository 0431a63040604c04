/-
Refreshing the schedule.

`update` calls the updater and installs the schedule that it gives.  Failures of input and
output leave the schedule in force; an updater that gives none breaks its contract.  A call
that does not end in time counts as failed, its outcome is thrown away when it comes, and
until then no other call is made.

`tick` refreshes the schedule and applies it, whatever came of the refresh.
-/
import ZonePlan.Scheduler.Push

namespace ZonePlan.Scheduler

open Act

/-! ### Calling the updater -/

/-- Marks that a call was made.  It is handed to a worker, a new one if there is none, and begins at
once; the worker is idle, since no call is made while another one goes on. -/
def beginCall (call : UpdaterCall) : Act Unit := do
  let number := (← world).surroundings.calls
  changeSurroundings fun s => { s with
    calls := number + 1
    stalled := if call.stalls then s.stalled.insert number call else s.stalled }
  changeScheduler fun s => { s with lastCall := some number, hasWorker := true }

/-- The failure of a call that took too long. -/
def timeOut : Act (Option Schedule) := do
  fail (.timedOut (← world).scheduler.settings.updaterTimeout)

/-- Calls the updater and waits for its schedule.  An updater that reports a time-out counts
as one that took too long. -/
def fetch (updater : Updater) : Act (Option Schedule) := do
  let s := (← world).surroundings
  let call := updater.call s.file s.calls
  beginCall call
  if call.stalls then timeOut
  else
    match ← attempt (logged call.gives) with
    | .ok schedule => pure schedule
    | .error cause => if cause.kind = .timeout then timeOut else fail cause

/-- Installs what a call gave, or deals with its failure. -/
def settle (updater : Updater) : Except Failure (Option Schedule) → Act Unit
  | .ok (some schedule) => replaceSchedule schedule
  | .ok none => fail (.noSchedule updater.name)
  | .error cause => if cause.kind.isInputOutput then note (.updateFailed cause) else fail cause

/-- Fetches a schedule and installs it, unless the call before is still going on. -/
def update : Act Unit := do
  let w ← world
  match w.surroundings.updater with
  | none => note .noUpdater
  | some updater =>
    if w.isUpdating then note .stillUpdating
    else settle updater (← attempt (fetch updater))

/-- Lets the stalled calls come to their ends.  What they give is thrown away. -/
def release : Act Unit := do
  let calls := (← world).surroundings.stalled.entries.map (·.2)
  changeSurroundings fun s => { s with stalled := ∅ }
  calls.forM fun call => do
    let _ ← attempt (logged call.gives)

/-! ### A run -/

/-- The note on a failed refresh. -/
def refreshNote (cause : Failure) : Note :=
  if cause.kind.isConfiguration then .refreshFailed cause else .refreshBroke cause

/-- Refreshes the schedule; a failure is noted. -/
def refresh : Act Unit := do
  match ← attempt update with
  | .ok () => pure ()
  | .error cause => note (refreshNote cause)

/-- One run: refreshes the schedule and applies it.  No failure leaves it. -/
def tick (react : Zone → List Step → Act Unit) : Act Unit := do
  note .checking
  match ← attempt (do refresh; execute react none) with
  | .ok () => pure ()
  | .error cause => note (.tickBroke cause)
  note .done

/-! ### Running by itself -/

/-- Milliseconds until the first run beyond which no date can be given for it. -/
def longestDelay : Int := 251600000000000

/-- Milliseconds between two runs beyond which no distance can be given for them. -/
def longestGranularity : Int := 86400000000000000

/-- Begins to run. -/
def start : Act Unit := do
  let s := (← world).scheduler
  if s.running then note .alreadyStarted
  else if longestDelay < s.settings.startupDelay ∨ longestGranularity ≤ s.settings.granularity then
    fail .outOfRange
  else
    changeScheduler fun s => { s with running := true }
    note (.started s.settings.granularity)

/-- Ends running.  The worker is let go, and a call of the updater that goes on is left to itself. -/
def stop : Act Unit := do
  changeScheduler fun s => { s with hasWorker := false }
  if (← world).scheduler.running then
    changeScheduler fun s => { s with running := false }
    note .stopped

end ZonePlan.Scheduler
