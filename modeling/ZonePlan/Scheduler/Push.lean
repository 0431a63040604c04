/-
Telling zones their statuses.

`execute` goes through the zones of the schedule in the order of their names and applies to
each its table: a zone is told the status in force unless it was told an equal one last.  A
failure with one zone does not keep the others from being applied.  While it is told a
status a zone may act on the scheduler; once that has replaced the schedule, the copies of
tables at hand are no longer the ones in force, and the zones that are left are skipped.

What zones do then is a parameter here, `react`.
-/
import ZonePlan.Journal.InForce
import ZonePlan.Scheduler.Act

namespace ZonePlan.Scheduler

open Act

/-! ### Schedules -/

/-- The scheduler with copies of a schedule in place of the one before; zones that it lacks
are forgotten. -/
def install (schedule : Schedule) (s : Scheduler) : Scheduler :=
  let dropped := s.schedule.dropped schedule
  { s with
    live := Copy.ofSchedule s.copies schedule
    copies := s.copies + schedule.size
    statuses := dropped.foldl Registry.erase s.statuses
    periods := dropped.foldl Registry.erase s.periods }

@[simp] theorem schedule_install (schedule : Schedule) (s : Scheduler) :
    (install schedule s).schedule = schedule := Copy.mapValues_ofSchedule s.copies schedule

theorem statuses_install (schedule : Schedule) (s : Scheduler) (z : Zone) :
    (install schedule s).statuses.get? z =
      if s.schedule.has z ∧ schedule.has z = false then none else s.statuses.get? z := by
  simp only [install, Registry.get?_foldl_erase, Schedule.mem_dropped]

theorem periods_install (schedule : Schedule) (s : Scheduler) (z : Zone) :
    (install schedule s).periods.get? z =
      if s.schedule.has z ∧ schedule.has z = false then none else s.periods.get? z := by
  simp only [install, Registry.get?_foldl_erase, Schedule.mem_dropped]

/-- Replaces the schedule as a whole. -/
def replaceSchedule (schedule : Schedule) : Act Unit := do
  let dropped := (← world).scheduler.schedule.dropped schedule
  changeScheduler (install schedule)
  if !dropped.isEmpty then note (.zonesDropped dropped)
  note (.scheduleReplaced schedule)

/-! ### One zone -/

/-- Forgets what a zone was told. -/
def forget (zone : Zone) (s : Scheduler) : Scheduler :=
  { s with statuses := s.statuses.erase zone, periods := s.periods.erase zone }

/-- Remembers what a zone was told. -/
def remember (zone : Zone) (status : Status) (period : Period) (s : Scheduler) : Scheduler :=
  { s with
    statuses := s.statuses.insert zone status
    periods := s.periods.insert zone period }

/-- Takes one from the times that a zone takes steps of its own. -/
def useHook (zone : Zone) (s : Surroundings) : Surroundings :=
  { s with
    conducts := match s.conducts.get? zone with
      | some c => s.conducts.insert zone { c with times := c.times - 1 }
      | none => s.conducts }

/-- Lets a zone take its steps, if they are due. -/
def letAct (react : Zone → List Step → Act Unit) (zone : Zone) : Act Unit := do
  let conduct := (← world).conduct zone
  if 0 < conduct.times then
    changeSurroundings (useHook zone)
    react zone conduct.hook

/-- How a zone that was told a status ends: it adopts the status or refuses it. -/
def conclude (zone : Zone) (period : Period) (status : Status) : Act Unit := do
  match ((← world).conduct zone).refusal with
  | some cause =>
    happen (.refused zone)
    fail cause
  | none => happen (.adopted zone period status)

/-- Tells a zone the status of a period.  The zone takes its steps first; then it adopts the
status or refuses it. -/
def tell (react : Zone → List Step → Act Unit) (zone : Zone) (period : Period) (status : Status) :
    Act Unit := do
  happen (.told zone period status)
  letAct react zone
  conclude zone period status

/-- Whether a zone was last told a status equal to a given one. -/
def wasTold (w : World) (zone : Zone) (status : Status) : Bool :=
  match w.status? zone with
  | some last => status.eqv last
  | none => false

/-- Tells a zone a status unless it was told an equal one last. -/
def push (react : Zone → List Step → Act Unit) (zone : Zone) (period : Period) (status : Status) :
    Act Unit := do
  if !wasTold (← world) zone status then
    tell react zone period status
    if (← world).scheduler.schedule.has zone then
      changeScheduler (remember zone status period)
      note (.pushed zone status period)

/-- Applies a table to a zone: the status in force is pushed, and where no period is in force
what the zone was told is forgotten. -/
def apply (react : Zone → List Step → Act Unit) (zone : Zone) (table : Table) (now : When) :
    Act Unit := do
  let w ← world
  if w.scheduler.schedule.has zone then
    match ← logged (table.noteInForce w.surroundings.ahead now) with
    | some (period, status) => push react zone period status
    | none =>
      note (.noActivePeriod zone)
      changeScheduler (forget zone)
  else note (.unscheduled zone)

/-! ### All zones -/

/-- Applies its table to one zone of a snapshot, unless the schedule was replaced since. -/
def visit (react : Zone → List Step → Act Unit) (now : When) (entry : Zone × Copy) : Act Unit := do
  if (← world).scheduler.isLive entry.1 entry.2 then
    match ← attempt (apply react entry.1 entry.2.table now) with
    | .ok () => pure ()
    | .error cause => note (.pushFailed entry.1 cause)
  else note (.skipped entry.1)

/-- Visits the zones of a snapshot one after the other. -/
def visitAll (react : Zone → List Step → Act Unit) (now : When) : List (Zone × Copy) → Act Unit
  | [] => pure ()
  | entry :: rest => do
    visit react now entry
    visitAll react now rest

/-- The moment to act at: what is given, if something is, else what the clock shows. -/
def momentOr (given : Option When) : Act When := do
  match given with
  | some w => if w.isGiven then pure w else ofExcept (← world).surroundings.clock
  | none => ofExcept (← world).surroundings.clock

/-- Applies the schedule to every zone. -/
def execute (react : Zone → List Step → Act Unit) (given : Option When) : Act Unit := do
  let now ← momentOr given
  visitAll react now (← world).scheduler.snapshot

end ZonePlan.Scheduler
