/-
Comparing a zone with its schedule.

The actual settings of a zone are compared with the status that the schedule has for it at a
moment, whatever the zone was told last.
-/
import ZonePlan.Scheduler.Push

namespace ZonePlan.Scheduler

open Act

/-- The moment of a comparison: what is given, if anything is, else what the clock shows. -/
def momentOfComparison (given : Option When) : Act When := do
  match given with
  | some w => pure w
  | none => ofExcept (← world).surroundings.clock

/-- Compares actual settings with a status. -/
def compareWith (zone : Zone) (status : Status) (setpoint : Double) (enabled voting : Bool) :
    Act Deviation := do
  let deviation := status.deviation setpoint enabled voting
  if status.agrees setpoint enabled voting then note (.onSchedule zone)
  else note (.deviates zone status setpoint deviation)
  return deviation

/-- How the actual settings of a zone differ from the schedule.  A zone that is not scheduled,
or for which no period is in force, deviates by nothing. -/
def deviation (zone : Zone) (setpoint : Double) (enabled voting : Bool) (given : Option When) :
    Act Deviation := do
  let moment ← momentOfComparison given
  let w ← world
  match w.scheduler.schedule.get? zone with
  | none =>
    note (.noTable zone)
    return .none
  | some table =>
    match ← logged (table.noteInForce w.surroundings.ahead moment) with
    | none =>
      note (.nothingInForce zone)
      return .none
    | some (_, status) => compareWith zone status setpoint enabled voting

end ZonePlan.Scheduler
