/-
What a scheduler remembers is what its trace says.

The status and the period of a zone are kept in two registries that are written in three
places: when a zone adopts a status, when no period is in force for it, and when a schedule
without it is installed.  A zone may do any of this to itself or to others while it is being
set, so the writes of one telling may come between those of another.  All the same nothing but
the latest of these events counts: `decision` looks for it in the trace, and what it finds is
what is remembered, in every world of a run.  That such an event comes of a table's being applied is
shown of single steps, in `take_arises`.

The induction is over the moves of a run.  Its invariant is `Remembers`; that what is decided
for a zone without a table is nothing (`has_of_decision`) is what lets `install` forget only
zones of the schedule before.
-/
import ZonePlan.Proofs.Scheduler.Moves

namespace ZonePlan

/-- What is remembered of a zone: the status that it was last told, and for which period. -/
def World.memory (w : World) (zone : Zone) : Option Status × Option Period :=
  (w.status? zone, w.period? zone)

/-! ### What a trace says

Traces are read backwards here, the latest event first.
-/

/-- The schedule installed last. -/
def lastInstalled : List Event → Schedule
  | [] => ∅
  | .noted (.scheduleReplaced schedule) :: _ => schedule
  | _ :: earlier => lastInstalled earlier

/-- What an event decides for a zone, if anything: a zone that adopts a status while it is
scheduled is in a period, one for which no period is in force is in none, and so is one that a
new schedule lacks. -/
def Event.decides (live : Schedule) (zone : Zone) : Event → Option (Option (Period × Status))
  | .adopted z period status =>
    if z = zone ∧ live.has zone then some (some (period, status)) else none
  | .noted (.noActivePeriod z) => if z = zone then some none else none
  | .noted (.scheduleReplaced new) => if new.has zone then none else some none
  | _ => none

/-- What the latest event that decides anything for a zone decides. -/
def decision (zone : Zone) : List Event → Option (Period × Status)
  | [] => none
  | e :: earlier => (e.decides (lastInstalled earlier) zone).getD (decision zone earlier)

theorem lastInstalled_idle {e : Event} (h : e.isIdle = true) (earlier : List Event) :
    lastInstalled (e :: earlier) = lastInstalled earlier := by
  rcases e with n | _ | _ | _ | _
  · cases n with
    | scheduleReplaced schedule => simp [Event.isIdle] at h
    | _ => rfl
  all_goals rfl

/-- Only the note of a replaced schedule says that one was installed. -/
theorem lastInstalled_cons {e : Event} (h : ∀ schedule, e ≠ .noted (.scheduleReplaced schedule))
    (earlier : List Event) : lastInstalled (e :: earlier) = lastInstalled earlier := by
  rw [lastInstalled]
  exact h

theorem decides_idle {e : Event} (h : e.isIdle = true) (live : Schedule) (zone : Zone) :
    e.decides live zone = none := by
  rcases e with n | _ | _ | _ | _
  · cases n with
    | scheduleReplaced schedule => simp [Event.isIdle] at h
    | noActivePeriod z => simp [Event.isIdle] at h
    | _ => rfl
  · rfl
  · simp [Event.isIdle] at h
  all_goals rfl

theorem decision_idle {e : Event} (h : e.isIdle = true) (zone : Zone) (earlier : List Event) :
    decision zone (e :: earlier) = decision zone earlier := by
  rw [decision, decides_idle h, Option.getD_none]

/-- Only for a scheduled zone is a period decided. -/
theorem has_of_decision {zone : Zone} {trace : List Event} (h : (decision zone trace).isSome) :
    (lastInstalled trace).has zone = true := by
  induction trace with
  | nil => simp [decision] at h
  | cons e earlier ih =>
    rcases hidle : e.isIdle with _ | _
    · rw [decision] at h
      rcases e with n | _ | ⟨z, period, status⟩ | _ | _
      · cases n with
        | scheduleReplaced new =>
          by_cases hnew : new.has zone
          · exact hnew
          · simp [Event.decides, hnew] at h
        | noActivePeriod z =>
          by_cases hz : z = zone
          · simp [Event.decides, hz] at h
          · exact ih (by simpa [Event.decides, hz] using h)
        | _ => simp [Event.isIdle] at hidle
      · simp [Event.isIdle] at hidle
      · by_cases hz : z = zone ∧ (lastInstalled earlier).has zone
        · exact hz.2
        · exact ih (by simpa [Event.decides, hz] using h)
      all_goals simp [Event.isIdle] at hidle
    · rw [decision_idle hidle] at h
      rw [lastInstalled_idle hidle]
      exact ih h

namespace Scheduler

/-! ### What is remembered -/

theorem memory_remember (zone : Zone) (status : Status) (period : Period) (w : World) (z : Zone) :
    ({ w with scheduler := remember zone status period w.scheduler } : World).memory z =
      if z = zone then (some status, some period) else w.memory z := by
  simp only [World.memory, World.status?, World.period?, remember, Registry.get?_insert]
  split <;> rfl

theorem memory_forget (zone : Zone) (w : World) (z : Zone) :
    ({ w with scheduler := forget zone w.scheduler } : World).memory z =
      if z = zone then (none, none) else w.memory z := by
  simp only [World.memory, World.status?, World.period?, forget, Registry.get?_erase]
  split <;> rfl

theorem memory_installed (schedule : Schedule) (w : World) (z : Zone) :
    (installed schedule w).memory z =
      if w.scheduler.schedule.has z ∧ schedule.has z = false then (none, none)
      else w.memory z := by
  simp only [World.memory, World.status?, World.period?, installed, statuses_install,
    periods_install]
  split <;> rfl

/-! ### Every move keeps it -/

/-- What a scheduler remembers agrees with its trace. -/
structure Remembers (w : World) : Prop where
  /-- The live schedule is the one installed last. -/
  schedule : w.scheduler.schedule = lastInstalled w.trace.reverse
  memory : ∀ zone, w.memory zone =
    ((decision zone w.trace.reverse).map (·.2), (decision zone w.trace.reverse).map (·.1))

theorem remembers_initial (settings : Settings) (surroundings : Surroundings) :
    Remembers (World.initial settings surroundings) where
  schedule := rfl
  memory _ := rfl

theorem Remembers.idle {w : World} (h : Remembers w) {e : Event} (he : e.isIdle = true) :
    Remembers (w.record [e]) := by
  have hback : (w.record [e]).trace.reverse = e :: w.trace.reverse := by simp
  refine ⟨?_, ?_⟩
  · rw [hback, lastInstalled_idle he]
    exact h.schedule
  · intro zone
    rw [hback, decision_idle he]
    exact h.memory zone

/-- Nothing is decided for a zone that is not scheduled. -/
theorem Remembers.unscheduled {w : World} (h : Remembers w) {zone : Zone}
    (hzone : w.scheduler.schedule.has zone = false) : decision zone w.trace.reverse = none := by
  rcases hd : decision zone w.trace.reverse with _ | last
  · rfl
  · have hhas := has_of_decision (Option.isSome_iff_exists.2 ⟨last, hd⟩)
    rw [← h.schedule, hzone] at hhas
    exact absurd hhas Bool.false_ne_true

/-- Nothing is remembered of a zone that is not scheduled. -/
theorem Remembers.memory_unscheduled {w : World} (h : Remembers w) {zone : Zone}
    (hzone : w.scheduler.schedule.has zone = false) : w.memory zone = (none, none) := by
  rw [h.memory, h.unscheduled hzone]
  rfl

/-- The last thing to happen when a schedule is installed is that this is noted; what was decided
before is not changed by the note on the dropped zones. -/
theorem trace_installed (schedule : Schedule) (w : World) : ∃ earlier,
    (installed schedule w).trace.reverse = .noted (.scheduleReplaced schedule) :: earlier ∧
      ∀ zone, decision zone earlier = decision zone w.trace.reverse := by
  by_cases hd : (w.scheduler.schedule.dropped schedule).isEmpty
  · exact ⟨w.trace.reverse, by simp [installed, replacement, hd], fun _ => rfl⟩
  · exact ⟨.noted (.zonesDropped (w.scheduler.schedule.dropped schedule)) :: w.trace.reverse,
      by simp [installed, replacement, hd], fun _ => decision_idle rfl _ _⟩

theorem Remembers.install {w : World} (h : Remembers w) (schedule : Schedule) :
    Remembers (installed schedule w) := by
  obtain ⟨earlier, hback, hsame⟩ := trace_installed schedule w
  refine ⟨?_, ?_⟩
  · rw [hback, lastInstalled]
    exact schedule_install schedule w.scheduler
  · intro zone
    rw [hback, decision, hsame, memory_installed]
    by_cases hnew : schedule.has zone
    · simp [Event.decides, hnew, h.memory zone]
    · -- Only zones of the schedule before are forgotten, and of others nothing is remembered.
      rcases hold : w.scheduler.schedule.has zone with _ | _
      · simp [Event.decides, hnew, h.memory_unscheduled hold]
      · simp [Event.decides, hnew]

theorem Remembers.vacate {w : World} (h : Remembers w) (zone : Zone) :
    Remembers (vacated zone w) := by
  have hback : (vacated zone w).trace.reverse =
      .noted (.noActivePeriod zone) :: w.trace.reverse := by simp [vacated]
  refine ⟨?_, ?_⟩
  · rw [hback, lastInstalled_cons (by simp)]
    exact h.schedule
  · intro z
    have hmemory : (vacated zone w).memory z = if z = zone then (none, none) else w.memory z :=
      memory_forget zone w z
    rw [hmemory, hback, decision]
    by_cases hz : z = zone
    · simp [Event.decides, hz]
    · simp [Event.decides, hz, Ne.symm hz, h.memory z]

theorem Remembers.adopt {w : World} (h : Remembers w) (zone : Zone) (period : Period)
    (status : Status) : Remembers (adopted zone period status w) := by
  by_cases hhas : w.scheduler.schedule.has zone = true
  · have hback : (adopted zone period status w).trace.reverse =
        .noted (.pushed zone status period) :: .adopted zone period status ::
          w.trace.reverse := by simp [adopted, hhas]
    refine ⟨?_, ?_⟩
    · rw [hback, lastInstalled_idle rfl, lastInstalled_cons (by simp), adopted, if_pos hhas]
      exact h.schedule
    · intro z
      have hmemory : (adopted zone period status w).memory z =
          if z = zone then (some status, some period) else w.memory z := by
        rw [adopted, if_pos hhas]
        exact memory_remember zone status period _ z
      rw [hmemory, hback, decision_idle rfl, decision, ← h.schedule]
      by_cases hz : z = zone
      · simp [Event.decides, hz, hhas]
      · simp [Event.decides, hz, Ne.symm hz, h.memory z]
  · have hback : (adopted zone period status w).trace.reverse =
        .adopted zone period status :: w.trace.reverse := by simp [adopted, hhas]
    refine ⟨?_, ?_⟩
    · rw [hback, lastInstalled_cons (by simp), adopted, if_neg hhas]
      exact h.schedule
    · intro z
      have hmemory : (adopted zone period status w).memory z = w.memory z := by
        rw [adopted, if_neg hhas]
        rfl
      -- What the zone adopts is of no account once the schedule lacks it.
      rw [hmemory, hback, decision, ← h.schedule, h.memory z]
      by_cases hz : zone = z
      · subst hz
        simp [Event.decides, hhas]
      · simp [Event.decides, hz]

theorem Remembers.move {w w' : World} (hmove : Move w w') (h : Remembers w) : Remembers w' := by
  cases hmove with
  | idle e he => exact h.idle he
  | outside s _ => exact ⟨h.schedule, h.memory⟩
  | control running lastCall hasWorker => exact ⟨h.schedule, h.memory⟩
  | install schedule => exact h.install schedule
  | vacate zone _ => exact h.vacate zone
  | adopt zone period status => exact h.adopt zone period status

theorem Reachable.remembers {w : World} (h : Reachable w) : Remembers w :=
  h.induct remembers_initial Remembers.move

/-! ### What is answered -/

theorem take_status (zone : Zone) (w : World) :
    take (.status zone) w = (.ok (.status (w.status? zone)), w) := by
  rw [take_eq]
  rfl

theorem take_period (zone : Zone) (w : World) :
    take (.period zone) w = (.ok (.period (w.period? zone)), w) := by
  rw [take_eq]
  rfl

/-- What a scheduler answers for the status and the period of a zone. -/
def Answers (w : World) (zone : Zone) (status : Option Status) (period : Option Period) : Prop :=
  take (.status zone) w = (.ok (.status status), w) ∧
    take (.period zone) w = (.ok (.period period), w)

/-- What is remembered is answered. -/
theorem answers_of_memory {w : World} {zone : Zone} {status : Option Status}
    {period : Option Period} (h : w.memory zone = (status, period)) :
    Answers w zone status period := by
  have hstatus : w.status? zone = status := congrArg Prod.fst h
  have hperiod : w.period? zone = period := congrArg Prod.snd h
  exact ⟨by rw [take_status, hstatus], by rw [take_period, hperiod]⟩

end Scheduler
end ZonePlan
