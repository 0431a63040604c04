/-
What is answered after an execution.

An execution at a moment in which no zone acts on the scheduler and none refuses leaves each
scheduled zone in one of two ways.  If it was told last what is now in force, it is not told
again, and what is remembered of it stays; otherwise it is told, and what is in force is remembered.
So the status that is answered is the one in force up to equality by value, but the period that
is answered is the one for which the zone was last told a status, and this need not be the one
in force: where one period follows another with an equal status, nobody is told.
-/
import ZonePlan.Proofs.Scheduler.Zonewise

namespace ZonePlan

/-- Whether an event is that a zone refuses what it was told. -/
def Event.refuses (zone : Zone) : Event → Bool
  | .refused z => z = zone
  | _ => false

theorem Event.refuses_doing {e : Event} (h : e.isDoing = true) (zone : Zone) :
    e.refuses zone = false := by
  cases e with
  | refused z => simp [Event.isDoing] at h
  | _ => rfl

namespace Scheduler

open Act
open Calendar (Moment)

/-- Whether a zone refused what it was told between one world and a later one. -/
def refusedSince (w w' : World) (zone : Zone) : Bool := (since w w').any (Event.refuses zone)

/-! ### Who refuses -/

section Refuses

variable {z : Zone} {table : Table} {now : When} {w : World} {refusal : Option Failure}
  {doings : List Event}

/-- On a visit the zone refuses if it is told something and has a reason, and nobody else does. -/
theorem refuses_visitEvents (h : ∀ e ∈ doings, e.isDoing = true) (zone : Zone) :
    (visitEvents z table now w refusal doings).any (Event.refuses zone) =
      (decide (z = zone) && ((due? z table now w).isSome && refusal.isSome)) := by
  have hnone : ∀ {events : List Event}, (∀ e ∈ events, e.isDoing = true) →
      events.any (Event.refuses zone) = false := by
    intro events hevents
    rw [List.any_eq_false]
    intro e he
    rw [Event.refuses_doing (hevents e he)]
    exact Bool.false_ne_true
  have hsearch := hnone (searchEvents_doing table w.surroundings.ahead now)
  unfold visitEvents due?
  rw [List.any_append, hsearch, Bool.false_or]
  rcases table.inForceAt w.surroundings.ahead now with cause | _ | ⟨period, status⟩
  · simp [Event.refuses]
  · simp [Event.refuses]
  · by_cases hold : wasTold w z status = true
    · simp [hold]
    · simp only [if_neg hold]
      rw [List.any_cons, List.any_append, hnone h]
      cases refusal with
      | none => simp [Event.refuses]
      | some cause => simp [Event.refuses]

end Refuses

namespace Zonewise

variable {now : When} {entries : List (Zone × Table)} {refusals : Zone → Option Failure}
  {doings : Zone → List Event} {w w' : World}

/-- Those zones refuse that are told something and have a reason. -/
theorem refusedSince_iff (h : Zonewise now entries refusals doings w w') (zone : Zone) :
    refusedSince w w' zone = true ↔
      ∃ table, (zone, table) ∈ entries ∧ (due? zone table now w).isSome = true ∧
        (refusals zone).isSome = true := by
  rw [refusedSince, since_of_trace h.trace, List.any_flatMap, List.any_eq_true]
  constructor
  · rintro ⟨⟨z, table⟩, hmem, hrefuses⟩
    rw [refuses_visitEvents (h.doing z)] at hrefuses
    simp only [Bool.and_eq_true, decide_eq_true_eq] at hrefuses
    obtain ⟨rfl, hdue, hrefusal⟩ := hrefuses
    exact ⟨table, hmem, hdue, hrefusal⟩
  · rintro ⟨table, hmem, hdue, hrefusal⟩
    refine ⟨(zone, table), hmem, ?_⟩
    rw [refuses_visitEvents (h.doing zone), hdue, hrefusal]
    simp

/-- Of a zone that did not refuse, what is in force is remembered, or what was remembered before
if it was told that last. -/
theorem memory_of_willing (h : Zonewise now entries refusals doings w w') {zone : Zone}
    {table : Table} (hmem : (zone, table) ∈ entries) (hwilling : refusedSince w w' zone = false) :
    w'.memory zone = memoryAfter zone table now w none := by
  rw [h.visited _ hmem]
  rcases hrefusal : refusals zone with _ | cause
  · rfl
  · -- A zone with a reason did not refuse, so it was not told anything.
    have hdue : due? zone table now w = none := by
      by_contra hdue
      have hrefused := (h.refusedSince_iff zone).2
        ⟨table, hmem, Option.isSome_iff_ne_none.2 hdue, by rw [hrefusal]; rfl⟩
      rw [hwilling] at hrefused
      exact Bool.false_ne_true hrefused
    unfold due? at hdue
    unfold memoryAfter
    rcases hforce : table.inForceAt w.surroundings.ahead now with _ | _ | ⟨period, status⟩
    · rfl
    · rfl
    · by_cases hold : wasTold w zone status = true
      · simp only [if_pos hold]
      · simp [hforce, hold] at hdue

end Zonewise

/-! ### Executions -/

/-- An execution on which no zone acts on the scheduler is a visit to each scheduled zone. -/
theorem execution_visits {w : World} {now : When} (hnow : now.isGiven = true)
    (hkept : KeptAside w (take (.execute (some now)) w).2) :
    ∃ refusals doings, Zonewise now (Zone.byName w.scheduler.schedule.entries) refusals doings w
      (take (.execute (some now)) w).2 := by
  rw [take_execute hnow] at hkept ⊢
  have hnodup : (w.scheduler.snapshot.map (·.1)).Nodup :=
    ((Zone.byName_perm w.scheduler.live.entries).map _).nodup_iff.2 w.scheduler.live.nodup
  have hvisits := visitAll_zonewise now w.scheduler.snapshot hnodup
    (fun e he => mem_snapshot.1 he) hkept
  rw [snapshot_tables] at hvisits
  exact hvisits

section Execution

variable {w w' : World} {t : Moment}

theorem schedule_after_execution
    (hexecute : (take (.execute (some (.moment t))) w).2 = w') (hkept : KeptAside w w') :
    w'.scheduler.schedule = w.scheduler.schedule := by
  subst hexecute
  obtain ⟨refusals, doings, hvisits⟩ := execution_visits rfl hkept
  rw [Scheduler.schedule, hvisits.live, Scheduler.schedule]

/-- What is remembered of a zone after an execution in which it did not refuse. -/
theorem memory_after_execution
    (hexecute : (take (.execute (some (.moment t))) w).2 = w') (hkept : KeptAside w w')
    {zone : Zone} {table : Table} (htable : w'.scheduler.schedule.get? zone = some table)
    (hwilling : refusedSince w w' zone = false) :
    w'.memory zone =
      match table.inForce t with
      | none => (none, none)
      | some (period, status) =>
        if wasTold w zone status then w.memory zone else (some status, some period) := by
  rw [schedule_after_execution hexecute hkept, Registry.get?_eq_some_iff] at htable
  subst hexecute
  obtain ⟨refusals, doings, hvisits⟩ := execution_visits rfl hkept
  rw [hvisits.memory_of_willing (Zone.mem_byName.2 htable) hwilling, memoryAfter,
    Table.inForceAt_moment]
  rcases table.inForce t with _ | ⟨period, status⟩ <;> rfl

theorem wasTold_eq_true {zone : Zone} {status : Status} :
    wasTold w zone status = true ↔ ∃ last, w.status? zone = some last ∧ status.eqv last = true := by
  unfold wasTold
  rcases w.status? zone with _ | last
  · simp
  · simp

/-- What is remembered was decided, and the period along with the status. -/
theorem Remembers.decided (h : Remembers w) {zone : Zone} {status : Status}
    (hstatus : w.status? zone = some status) : ∃ period,
      decision zone w.trace.reverse = some (period, status) ∧
        w.memory zone = (some status, some period) := by
  have hmemory := h.memory zone
  have hfirst : (w.memory zone).1 = some status := hstatus
  rcases hdecided : decision zone w.trace.reverse with _ | ⟨period, status'⟩
  · rw [hmemory, hdecided] at hfirst
    simp at hfirst
  · rw [hmemory, hdecided] at hfirst
    obtain rfl : status' = status := Option.some.inj hfirst
    rw [hdecided] at hmemory
    exact ⟨period, rfl, hmemory⟩

/-- After an execution in which a zone did not refuse, the latest event that decides anything for
it has decided on what is in force, up to equality by value of the status. -/
theorem decision_after_execution (h : Reachable w)
    (hexecute : (take (.execute (some (.moment t))) w).2 = w') (hkept : KeptAside w w')
    {zone : Zone} {table : Table} (htable : w'.scheduler.schedule.get? zone = some table)
    (hwilling : refusedSince w w' zone = false) {period : Period} {status : Status}
    (hforce : table.inForce t = some (period, status)) :
    ∃ last, decision zone w'.trace.reverse = some last ∧ status.eqv last.2 = true ∧
      w'.memory zone = (some last.2, some last.1) ∧
      (wasTold w zone status = false → last = (period, status)) ∧
      (wasTold w zone status = true → w'.memory zone = w.memory zone) := by
  have hw' : Remembers w' := by
    subst hexecute
    exact (h.taken _).remembers
  have hmemory := memory_after_execution hexecute hkept htable hwilling
  rw [hforce] at hmemory
  by_cases hold : wasTold w zone status = true
  · simp only [if_pos hold] at hmemory
    obtain ⟨last, hstatus, heqv⟩ := wasTold_eq_true.1 hold
    obtain ⟨period', hdecided, hremembered⟩ :=
      hw'.decided ((congrArg Prod.fst hmemory).trans hstatus)
    refine ⟨_, hdecided, heqv, hremembered, fun hnew => ?_, fun _ => hmemory⟩
    rw [hold] at hnew
    exact absurd hnew.symm Bool.false_ne_true
  · simp only [if_neg hold] at hmemory
    obtain ⟨period', hdecided, hremembered⟩ := hw'.decided (congrArg Prod.fst hmemory)
    have hsame : some period' = some period := congrArg Prod.snd (hremembered.symm.trans hmemory)
    rw [Option.some.inj hsame] at hdecided
    exact ⟨_, hdecided, status.eqv_refl, hmemory, fun _ => rfl, fun htold => absurd htold hold⟩

end Execution

/-- Of a schedule with one zone the snapshot is this zone. -/
theorem take_execute_single {w : World} {zone : Zone} {copy : Copy} {t : Moment}
    (hlive : w.scheduler.live.entries = [(zone, copy)]) :
    (take (.execute (some (.moment t))) w).2 =
      (visitAll (takeSteps take) (.moment t) [(zone, copy)] w).2 := by
  rw [take_execute rfl, Scheduler.snapshot, Zone.byName, hlive, List.mergeSort_singleton]

/-! ### A den with two periods of one status

The den of the cottage alone, in a world in which it takes no steps of its own.
-/

namespace Cottage

def forenoon : Period where
  name := "forenoon"
  start := 9 * 60 * millisPerMinute
  finish := 12 * 60 * millisPerMinute
  days := Period.everyDay
  name_ne := by decide
  start_add_le := by decide
  finish_le := by decide
  days_lt := allDay.days_lt

def afternoon : Period where
  name := "afternoon"
  start := (12 * 60 + 1) * millisPerMinute
  finish := 17 * 60 * millisPerMinute
  days := Period.everyDay
  name_ne := by decide
  start_add_le := by decide
  finish_le := by decide
  days_lt := allDay.days_lt

def halves : Table := ⟨[(forenoon, warm), (afternoon, warm)], by decide⟩

def atTen : Moment := ⟨0, 10 * 60 * Calendar.microsPerMinute, by decide, none⟩

def atOne : Moment := ⟨0, 13 * 60 * Calendar.microsPerMinute, by decide, none⟩

def halved : World :=
  (begin (some (pure ⟨[(den, halves)], by decide⟩))
    (World.initial .default { surroundings with conducts := ∅ })).2

/-- In the forenoon the den was told its status. -/
def halvedTen : World := (take (.execute (some (.moment atTen))) halved).2

theorem halvedTen_eq :
    halvedTen = (visitAll (takeSteps take) (.moment atTen) [(den, ⟨0, halves⟩)] halved).2 :=
  take_execute_single rfl

/-- In the afternoon it was not told again. -/
def halvedOne : World := (take (.execute (some (.moment atOne))) halvedTen).2

theorem halvedOne_eq :
    halvedOne = halvedTen.record [.noted (.work (.periodMatches afternoon (.moment atOne)))] := by
  have hlive : halvedTen.scheduler.live.entries = [(den, ⟨0, halves⟩)] := by
    rw [halvedTen_eq]
    rfl
  rw [halvedOne, take_execute_single hlive, halvedTen_eq]
  rfl

theorem reachable_halvedTen : Reachable halvedTen := .taken _ (.begun _ _ _)

theorem since_halvedOne : since halvedTen halvedOne =
    [.noted (.work (.periodMatches afternoon (.moment atOne)))] := by
  rw [halvedOne_eq]
  exact since_of_trace rfl

theorem keptAside_halvedOne : KeptAside halvedTen halvedOne := by
  rw [KeptAside, since_halvedOne]
  decide

theorem willing_halvedOne (zone : Zone) : refusedSince halvedTen halvedOne zone = false := by
  rw [refusedSince, since_halvedOne]
  rfl

theorem table_halvedOne : halvedOne.scheduler.schedule.get? den = some halves := by
  rw [halvedOne_eq, halvedTen_eq]
  rfl

/-- In the afternoon the forenoon is still the period of the den. -/
theorem memory_halvedOne : halvedOne.memory den = (some warm, some forenoon) := by
  rw [halvedOne_eq, halvedTen_eq]
  rfl

end Cottage

/-! ### What is answered -/

/-- **After an execution at a moment on which no zone acts on the scheduler and none refuses, what
is answered for a scheduled zone agrees with the schedule up to equality by value.**  Nothing is
answered where no period is in force.  Otherwise the status is equal to the one in force, and the
period is the one for which the zone was told it: the one in force if the zone was told now, and
the one from before if what it was told last is equal to what is in force. -/
theorem answers_after_execution {w w' : World} (h : Reachable w) {t : Moment}
    (hexecute : (take (.execute (some (.moment t))) w).2 = w') (hkept : KeptAside w w')
    (hwilling : ∀ zone, refusedSince w w' zone = false) {zone : Zone} {table : Table}
    (htable : w'.scheduler.schedule.get? zone = some table) :
    match table.inForce t with
    | none => take (.status zone) w' = (.ok (.status none), w') ∧
        take (.period zone) w' = (.ok (.period none), w')
    | some (period, status) => ∃ period' status',
        take (.status zone) w' = (.ok (.status (some status')), w') ∧
          take (.period zone) w' = (.ok (.period (some period')), w') ∧
          status.eqv status' = true ∧
          decision zone w'.trace.reverse = some (period', status') ∧
          (wasTold w zone status = false → period' = period ∧ status' = status) ∧
          (wasTold w zone status = true →
            take (.status zone) w = (.ok (.status (some status')), w) ∧
              take (.period zone) w = (.ok (.period (some period')), w)) := by
  rcases hforce : table.inForce t with _ | ⟨period, status⟩
  · have hmemory := memory_after_execution hexecute hkept htable (hwilling zone)
    rw [hforce] at hmemory
    exact answers_of_memory hmemory
  · obtain ⟨last, hdecided, heqv, hmemory, hnew, hold⟩ :=
      decision_after_execution h hexecute hkept htable (hwilling zone) hforce
    obtain ⟨hstatus, hperiod⟩ := answers_of_memory hmemory
    refine ⟨last.1, last.2, hstatus, hperiod, heqv, hdecided, fun htold => ?_, fun htold => ?_⟩
    · rw [hnew htold]
      exact ⟨rfl, rfl⟩
    · exact answers_of_memory ((hold htold).symm.trans hmemory)

/-- In the afternoon the den is not told the status that it has from the forenoon, and what is
answered for its status is in force, although what is answered for its period is not. -/
theorem answers_of_halved_cottage :
    take (.status Cottage.den) Cottage.halvedOne =
        (.ok (.status (some Cottage.warm)), Cottage.halvedOne) ∧
      take (.period Cottage.den) Cottage.halvedOne =
        (.ok (.period (some Cottage.forenoon)), Cottage.halvedOne) ∧
      Cottage.halves.inForce Cottage.atOne = some (Cottage.afternoon, Cottage.warm) := by
  have hexecute : (take (.execute (some (.moment Cottage.atOne))) Cottage.halvedTen).2 =
      Cottage.halvedOne := rfl
  obtain ⟨period, status, hstatus, hperiod, -, -, -, hold⟩ :=
    answers_after_execution Cottage.reachable_halvedTen hexecute Cottage.keptAside_halvedOne
      Cottage.willing_halvedOne Cottage.table_halvedOne
  have htold : wasTold Cottage.halvedTen Cottage.den Cottage.warm = true := by
    rw [Cottage.halvedTen_eq]
    rfl
  obtain ⟨hstatus', hperiod'⟩ := hold htold
  rw [Cottage.halvedTen_eq] at hstatus' hperiod'
  cases hstatus'
  cases hperiod'
  exact ⟨hstatus, hperiod, rfl⟩

/-- What is answered for the period of a zone need not be the period in force. -/
theorem period_need_not_be_in_force :
    ¬∀ (w w' : World) (t : Moment) (zone : Zone) (table : Table), Reachable w →
      (take (.execute (some (.moment t))) w).2 = w' → KeptAside w w' →
      (∀ zone, refusedSince w w' zone = false) →
      w'.scheduler.schedule.get? zone = some table →
      match table.inForce t with
      | none => (take (.status zone) w').1 = .ok (.status none) ∧
          (take (.period zone) w').1 = .ok (.period none)
      | some (period, status) => (take (.period zone) w').1 = .ok (.period (some period)) ∧
          ∃ status', (take (.status zone) w').1 = .ok (.status (some status')) ∧
            status.eqv status' = true := by
  intro h
  have hden := h Cottage.halvedTen Cottage.halvedOne Cottage.atOne Cottage.den Cottage.halves
    Cottage.reachable_halvedTen rfl Cottage.keptAside_halvedOne Cottage.willing_halvedOne
    Cottage.table_halvedOne
  have hforce : Cottage.halves.inForce Cottage.atOne =
      some (Cottage.afternoon, Cottage.warm) := by decide
  have hperiod : Cottage.halvedOne.period? Cottage.den = some Cottage.forenoon :=
    congrArg Prod.snd Cottage.memory_halvedOne
  rw [hforce, take_period, hperiod] at hden
  have hsame := hden.1
  cases hsame

end Scheduler
end ZonePlan
