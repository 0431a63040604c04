/-
What is worth noting.

While it works the library notes what it does.  A note is a cause with the values it is
about, as a failure is; its level and its wording are given here.  Some notes belong to a
zone, and some report a failure that was caught.  What reading and searching note is a kind
of its own: no such note says anything about a scheduler.
-/
import ZonePlan.Calendar.TimeFormat
import ZonePlan.Schedule.Basic

namespace ZonePlan

/-- How grave a note is. -/
inductive Level where
  | debug
  | info
  | warning
  | error
  | critical
deriving DecidableEq, Repr

namespace Level

/-- The number by which levels are compared. -/
def number : Level → Nat
  | .debug => 10
  | .info => 20
  | .warning => 30
  | .error => 40
  | .critical => 50

/-- The name of a level. -/
def text : Level → String
  | .debug => "DEBUG"
  | .info => "INFO"
  | .warning => "WARNING"
  | .error => "ERROR"
  | .critical => "CRITICAL"

/-- The levels from the least grave on. -/
def all : List Level := [.debug, .info, .warning, .error, .critical]

end Level

/-- What a piece of work notes: reading texts, searching tables, loading files. -/
inductive WorkNote where
  /-- A text is not written in a format. -/
  | notInFormat (shown : Text) (format : Calendar.TimeFormat)
  | noPeriodMatches (w : When)
  | periodMatches (period : Period) (w : When)
  /-- A zone lists a period twice. -/
  | duplicatePeriod (zone : String) (period : Period)
  | fileLoaded (zones : Nat) (path : String)

/-- Something worth noting. -/
inductive Note where
  | work (n : WorkNote)
  /-- A scheduler starts with neither schedule nor updater. -/
  | idle
  | alreadyStarted
  | started (granularity : Int)
  | stopped
  | checking
  | done
  /-- The source of schedules broke its contract. -/
  | refreshFailed (cause : Failure)
  | refreshBroke (cause : Failure)
  | tickBroke (cause : Failure)
  | noUpdater
  | stillUpdating
  | updateFailed (cause : Failure)
  | zonesDropped (zones : List Zone)
  | scheduleReplaced (schedule : Schedule)
  /-- A zone is left alone because its schedule was replaced meanwhile. -/
  | skipped (zone : Zone)
  | pushFailed (zone : Zone) (cause : Failure)
  | unscheduled (zone : Zone)
  | noActivePeriod (zone : Zone)
  | pushed (zone : Zone) (status : Status) (period : Period)
  | noTable (zone : Zone)
  /-- A zone is compared with its schedule while no period is in force. -/
  | nothingInForce (zone : Zone)
  | onSchedule (zone : Zone)
  | deviates (zone : Zone) (status : Status) (setpoint : Double) (deviation : Deviation)

namespace WorkNote

/-- The level of a note of work. -/
def level : WorkNote → Level
  | .duplicatePeriod _ _ => .warning
  | _ => .debug

/-- The wording of a note of work. -/
def text : WorkNote → Text
  | .notInFormat shown format =>
    "Failed to parse '" ++ shown ++ "' as '" ++ format.pattern ++ "'"
  | .noPeriodMatches w => "No period matches " ++ w.text
  | .periodMatches period w => "Matched " ++ period.text ++ " at " ++ w.text
  | .duplicatePeriod zone period =>
    zone ++ ": duplicate period " ++ period.text ++ ", last one wins"
  | .fileLoaded zones path =>
    "Loaded schedule for " ++ toString zones ++ " zone(s) from " ++ path

end WorkNote

namespace Note

/-- The level of a note. -/
def level : Note → Level
  | .work n => n.level
  | .noUpdater | .scheduleReplaced _ | .skipped _ | .unscheduled _ | .noTable _
  | .nothingInForce _ | .onSchedule _ | .deviates _ _ _ _ => .debug
  | .started _ | .stopped | .checking | .done | .zonesDropped _ | .noActivePeriod _
  | .pushed _ _ _ => .info
  | .idle | .alreadyStarted | .stillUpdating => .warning
  | .refreshBroke _ | .tickBroke _ | .updateFailed _ | .pushFailed _ _ => .error
  | .refreshFailed _ => .critical

/-- The names of zones in order. -/
def nameList (zones : List Zone) : Text :=
  Text.join ", " ((zones.map (·.name)).mergeSort Text.notAfter)

/-- The wording of a note.  The time of a first run is left open. -/
def text : Note → Text
  | .work n => n.text
  | .idle => "No schedule and no updater given, scheduler will stay idle"
  | .alreadyStarted => "Scheduler already started, ignored"
  | .started granularity =>
    "Scheduler started: every " ++ toString granularity ++ " ms, first run at <time>"
  | .stopped => "Scheduler stopped"
  | .checking => "Checking schedule"
  | .done => "done"
  | .refreshFailed _ => "Schedule refresh failed, keeping the previous schedule"
  | .refreshBroke _ => "Unexpected error refreshing schedule, keeping the previous one"
  | .tickBroke _ => "Unexpected error during schedule tick"
  | .noUpdater => "No updater specified, doing nothing"
  | .stillUpdating => "Previous schedule update still running, refresh skipped"
  | .updateFailed _ => "Schedule update failed"
  | .zonesDropped zones => "Dropped zones no longer scheduled: " ++ nameList zones
  | .scheduleReplaced schedule => "Schedule replaced, " ++ toString schedule.size ++ " zone(s)"
  | .skipped zone => zone.name ++ ": schedule replaced, skipped"
  | .pushFailed zone _ => zone.name ++ ": failed to set schedule, will retry on next run"
  | .unscheduled zone => zone.name ++ ": not in the schedule, nothing to apply"
  | .noActivePeriod zone | .nothingInForce zone => zone.name ++ ": no active period found"
  | .pushed zone status period =>
    zone.name ++ " set to " ++ status.text ++ " (" ++ period.text ++ ")"
  | .noTable zone => "No schedule found for " ++ zone.name ++ " (yet?)"
  | .onSchedule zone => zone.name ++ ": on schedule"
  | .deviates zone status setpoint deviation =>
    zone.name ++ ": scheduled " ++ status.text ++ ", actual setpoint=" ++ setpoint.text ++
      ", deviation " ++ deviation.text

/-- The zone that a note belongs to. -/
def zone? : Note → Option Zone
  | .pushFailed zone _ | .noActivePeriod zone | .pushed zone _ _ => some zone
  | _ => none

/-- The failure that a note reports. -/
def failure? : Note → Option Failure
  | .refreshFailed cause | .refreshBroke cause | .tickBroke cause | .updateFailed cause
  | .pushFailed _ cause => some cause
  | _ => none

end Note

/-- Notes of work are notes. -/
instance : Coe (List WorkNote) (List Note) := ⟨List.map .work⟩

end ZonePlan
