/-
A scheduler and what surrounds it.

The scheduler keeps the schedule in force, what it last told each zone, and whether it
runs.  Around it are the zones, which may refuse to be set or may act on the scheduler while
they are set, a clock, the source of schedules, and the file that such a source may read.
What happens is kept in a trace, in order.
-/
import ZonePlan.Document.File
import ZonePlan.Settings.Basic

namespace ZonePlan

/-! ### Steps -/

/-- What can be done to a scheduler or to its surroundings. -/
inductive Step where
  | tick
  | update
  | execute (now : Option When)
  /-- Applies a table to a zone, or its own table where none is given. -/
  | apply (zone : Zone) (now : When) (table : Option (Logged Table))
  | replace (schedule : Logged Schedule)
  /-- Replaces the schedule by that of a document. -/
  | load (resolve : String → Option Zone) (document : Json.Value)
  | status (zone : Zone)
  | period (zone : Zone)
  | schedule
  | deviation (zone : Zone) (setpoint : Double) (enabled voting : Bool) (moment : Option When)
  | start
  | stop
  | running
  | granularity
  | setClock (clock : Except Failure When)
  /-- Makes a zone refuse to be set, or no longer refuse. -/
  | setRefusal (zone : Zone) (refusal : Option Failure)
  /-- Makes a zone take steps of its own the next few times that it is set. -/
  | setHook (zone : Zone) (steps : List Step) (times : Nat)
  | writeFile (content : FileContent)
  | deleteFile
  /-- Lets every stalled call of the updater come to its end. -/
  | release
  | calls
  /-- A named step that cannot be taken at all. -/
  | unfit (name : String) (cause : Failure)

namespace Step

mutual

/-- How many times zones may take steps of their own once a step was taken. -/
def weight : Step → Nat
  | .setHook _ steps times => times * (1 + totalWeight steps)
  | _ => 0

/-- The weights of steps together. -/
def totalWeight : List Step → Nat
  | [] => 0
  | step :: rest => weight step + totalWeight rest

end

end Step

/-- What a step answers. -/
inductive Answer where
  | nothing
  | status (status : Option Status)
  | period (period : Option Period)
  | schedule (schedule : Schedule)
  | deviation (deviation : Deviation)
  | truth (value : Bool)
  | number (value : Int)

/-! ### Surroundings -/

/-- How a zone behaves when it is set. -/
structure Conduct where
  /-- Why the zone refuses to be set, if it does. -/
  refusal : Option Failure
  /-- The steps that the zone takes while it is set. -/
  hook : List Step
  /-- How many more times the zone takes them. -/
  times : Nat

namespace Conduct

/-- A zone that lets itself be set. -/
def plain : Conduct := ⟨none, [], 0⟩

/-- How many times zones may take steps of their own because of this one. -/
def weight (c : Conduct) : Nat := c.times * (1 + Step.totalWeight c.hook)

end Conduct

/-- One call of an updater. -/
structure UpdaterCall where
  /-- Whether the call does not end in time. -/
  stalls : Bool
  /-- What the call gives in the end: a schedule, none, or a failure. -/
  gives : Logged (Option Schedule)

/-- A source of schedules. -/
inductive Updater where
  /-- One that gives what it is told to; the last call is repeated. -/
  | scripted (calls : List UpdaterCall)
  /-- One that reads a file. -/
  | file (path : String) (resolve : String → Option Zone)

namespace Updater

/-- What an updater is called in messages. -/
def name : Updater → String
  | .scripted _ => "ScriptedUpdater"
  | .file _ _ => "FileScheduleUpdater"

/-- The call of an updater that comes after a number of others. -/
def call (u : Updater) (content : FileContent) (before : Nat) : UpdaterCall :=
  match u with
  | .scripted calls => (calls[before]?.or calls.getLast?).getD ⟨false, pure none⟩
  | .file path resolve => ⟨false, some <$> Document.load resolve path content⟩

end Updater

/-- What surrounds a scheduler. -/
structure Surroundings where
  /-- Minutes that the local clock is ahead of universal time. -/
  ahead : Int
  clock : Except Failure When
  conducts : Registry Zone Conduct
  updater : Option Updater
  file : FileContent
  /-- How many calls of the updater were made. -/
  calls : Nat
  /-- The calls that have not come to their end, by their numbers. -/
  stalled : Registry Nat UpdaterCall

/-! ### The scheduler -/

/-- A scheduler. -/
structure Scheduler where
  settings : Settings
  /-- The schedule in force, in copies of the tables that were given. -/
  live : Registry Zone Copy
  /-- How many copies were made, which is the number of the next one. -/
  copies : Nat
  /-- The status that each zone was last told. -/
  statuses : Registry Zone Status
  /-- The period for which each zone was last told a status. -/
  periods : Registry Zone Period
  running : Bool
  /-- The number of the last call of the updater. -/
  lastCall : Option Nat
  /-- Whether there is a worker that calls of the updater are handed to. -/
  hasWorker : Bool

namespace Scheduler

/-- The schedule in force. -/
def schedule (s : Scheduler) : Schedule := s.live.mapValues (·.table)

/-- The copies in force, by the names of their zones. -/
def snapshot (s : Scheduler) : List (Zone × Copy) := Zone.byName s.live.entries

/-- Whether a copy is the one in force for a zone. -/
def isLive (s : Scheduler) (zone : Zone) (copy : Copy) : Bool :=
  (s.live.get? zone).any fun c => c.number == copy.number

end Scheduler

/-! ### The world -/

/-- Something that happens. -/
inductive Event where
  | noted (note : Note)
  /-- A zone is told the status of a period. -/
  | told (zone : Zone) (period : Period) (status : Status)
  /-- A zone has adopted the status that it was told. -/
  | adopted (zone : Zone) (period : Period) (status : Status)
  /-- A zone took a step of its own. -/
  | hooked (zone : Zone) (step : Step) (result : Except Failure Answer)
  /-- A zone refuses the status that it was told. -/
  | refused (zone : Zone)

/-- A scheduler, its surroundings, and what happened so far. -/
structure World where
  scheduler : Scheduler
  surroundings : Surroundings
  trace : List Event

namespace World

/-- How a zone behaves. -/
def conduct (w : World) (z : Zone) : Conduct := (w.surroundings.conducts.get? z).getD .plain

/-- How many times zones may take steps of their own. -/
def budget (w : World) : Nat :=
  w.surroundings.conducts.entries.foldr (fun e total => e.2.weight + total) 0

/-- Whether the last call of the updater has not come to its end. -/
def isUpdating (w : World) : Bool :=
  match w.scheduler.lastCall with
  | some call => w.surroundings.stalled.has call
  | none => false

/-- The status that a zone was last told. -/
def status? (w : World) (z : Zone) : Option Status := w.scheduler.statuses.get? z

/-- The period for which a zone was last told a status. -/
def period? (w : World) (z : Zone) : Option Period := w.scheduler.periods.get? z

/-- The world in which a scheduler begins. -/
def initial (settings : Settings) (surroundings : Surroundings) : World where
  scheduler := {
    settings, live := ∅, copies := 0, statuses := ∅, periods := ∅, running := false
    lastCall := none, hasWorker := false }
  surroundings
  trace := []

end World
end ZonePlan
