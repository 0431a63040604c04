/-
What a zone was told last, and what it adopted last.

A scheduler keeps account of the statuses that zones adopted, not of those that they were told.  In
an undisturbed run the two differ only through refusals: of a zone that did not refuse last, the
latest telling is the latest adoption, and what is decided for a zone is always what it adopted
last (`Accounted`).  So after an execution in which nobody refuses, the latest status that a zone
has adopted is in force.  The latest that it was told need not be: a zone that refused a status,
and whose period in force has since become the one before, is not told anything.
-/
import ZonePlan.Proofs.Scheduler.Applied
import ZonePlan.Proofs.Scheduler.Retelling

namespace ZonePlan

/-! ### Tellings in a trace -/

/-- What an event tells a zone, if anything. -/
def Event.tells (zone : Zone) : Event → Option (Period × Status)
  | .told z period status => if z = zone then some (period, status) else none
  | _ => none

/-- What a zone adopts by an event, if anything. -/
def Event.adopts (zone : Zone) : Event → Option (Period × Status)
  | .adopted z period status => if z = zone then some (period, status) else none
  | _ => none

/-- Whether a zone adopts or refuses what it was told, if an event is the end of a telling. -/
def Event.ends (zone : Zone) : Event → Option Bool
  | .adopted z _ _ => if z = zone then some true else none
  | .refused z => if z = zone then some false else none
  | _ => none

/-- Whether an event is neither the beginning nor the end of a telling. -/
def Event.isAside : Event → Bool
  | .noted _ | .hooked _ _ _ => true
  | _ => false

theorem Event.isAside_doing {e : Event} (h : e.isDoing = true) : e.isAside = true := by
  cases e with
  | noted n => rfl
  | hooked zone step result => rfl
  | _ => simp [Event.isDoing] at h

/-- What a zone was told last.  Traces are read backwards, the latest event first. -/
def lastTold (zone : Zone) (trace : List Event) : Option (Period × Status) :=
  trace.findSome? (Event.tells zone)

/-- What a zone adopted last. -/
def lastAdopted (zone : Zone) (trace : List Event) : Option (Period × Status) :=
  trace.findSome? (Event.adopts zone)

/-- Whether a zone adopted what it was told last, if that telling came to its end. -/
def lastEnd (zone : Zone) (trace : List Event) : Option Bool :=
  trace.findSome? (Event.ends zone)

/-- What comes aside of tellings changes nothing about them. -/
theorem last_append_aside {events : List Event} (h : ∀ e ∈ events, e.isAside = true) (zone : Zone)
    (earlier : List Event) :
    lastTold zone (events ++ earlier) = lastTold zone earlier ∧
      lastAdopted zone (events ++ earlier) = lastAdopted zone earlier ∧
      lastEnd zone (events ++ earlier) = lastEnd zone earlier := by
  induction events with
  | nil => exact ⟨rfl, rfl, rfl⟩
  | cons e rest ih =>
    have hrest := ih fun e' he' => h e' (List.mem_cons_of_mem _ he')
    have he := h e List.mem_cons_self
    cases e with
    | noted n => exact hrest
    | hooked z step result => exact hrest
    | _ => simp [Event.isAside] at he

/-! ### The account of a trace -/

/-- Of each zone, the latest telling is the latest adoption unless it was refused, and what is
decided is the latest adoption. -/
structure Accounted (trace : List Event) : Prop where
  ended : ∀ zone, lastEnd zone trace ≠ some false → lastTold zone trace = lastAdopted zone trace
  decided : ∀ zone last, decision zone trace = some last → lastAdopted zone trace = some last

namespace Accounted

variable {earlier : List Event}

theorem nil : Accounted [] where
  ended _ _ := rfl
  decided _ _ h := by simp [decision] at h

theorem notes (h : Accounted earlier) {events : List Event}
    (hnotes : ∀ e ∈ events, ∃ n, e = .noted n) : Accounted (events ++ earlier) := by
  induction events with
  | nil => exact h
  | cons e rest ih =>
    obtain ⟨n, rfl⟩ := hnotes e List.mem_cons_self
    obtain ⟨hended, hdecided⟩ := ih fun e' he' => hnotes e' (List.mem_cons_of_mem _ he')
    exact ⟨hended, fun zone last hlast => hdecided zone last (decision_of_cons rfl hlast)⟩

section Telling

variable {doings : List Event}

/-- A telling so far, with what the zone does, backwards. -/
theorem last_telling (hdoing : ∀ e ∈ doings, e.isDoing = true) (zone : Zone) (period : Period)
    (status : Status) (earlier : List Event) (z : Zone) :
    lastTold z (doings ++ .told zone period status :: earlier) =
        (if zone = z then some (period, status) else lastTold z earlier) ∧
      lastAdopted z (doings ++ .told zone period status :: earlier) = lastAdopted z earlier ∧
      lastEnd z (doings ++ .told zone period status :: earlier) = lastEnd z earlier ∧
      decision z (doings ++ .told zone period status :: earlier) = decision z earlier ∧
      lastInstalled (doings ++ .told zone period status :: earlier) = lastInstalled earlier := by
  have haside := last_append_aside (fun e he => Event.isAside_doing (hdoing e he)) z
    (.told zone period status :: earlier)
  have hidle := decision_append_idle (fun e he => Event.isIdle_of_doing (hdoing e he)) z
    (.told zone period status :: earlier)
  rw [haside.1, haside.2.1, haside.2.2, hidle.1, hidle.2, decision_idle rfl,
    lastInstalled_idle rfl]
  refine ⟨?_, rfl, rfl, rfl, rfl⟩
  by_cases hz : zone = z
  · simp [lastTold, Event.tells, hz]
  · simp [lastTold, Event.tells, hz]

theorem adopted (h : Accounted earlier) {zone : Zone}
    (hhas : (lastInstalled earlier).has zone = true) (hdoing : ∀ e ∈ doings, e.isDoing = true)
    (period : Period) (status : Status) :
    Accounted (.adopted zone period status ::
      (doings ++ .told zone period status :: earlier)) := by
  have hlast := last_telling hdoing zone period status earlier
  have hadopts : ∀ z before, lastAdopted z (.adopted zone period status :: before) =
      if zone = z then some (period, status) else lastAdopted z before := by
    intro z before
    by_cases hz : zone = z
    · simp [lastAdopted, Event.adopts, hz]
    · simp [lastAdopted, Event.adopts, hz]
  refine ⟨fun z hend => ?_, fun z last hdecided => ?_⟩
  · obtain ⟨htold, hadopted, hended, -, -⟩ := hlast z
    rw [hadopts]
    refine htold.trans ?_
    by_cases hz : zone = z
    · rw [if_pos hz, if_pos hz]
    · have hend' : lastEnd z earlier ≠ some false := by
        rw [← hended]
        simpa [lastEnd, Event.ends, hz] using hend
      rw [if_neg hz, if_neg hz, hadopted]
      exact h.ended z hend'
  · obtain ⟨-, hadopted, -, hsame, hinstalled⟩ := hlast z
    rw [decision, hinstalled, hsame] at hdecided
    rw [hadopts]
    by_cases hz : zone = z
    · subst hz
      simpa [Event.decides, hhas] using hdecided
    · rw [if_neg hz, hadopted]
      exact h.decided z last (by simpa [Event.decides, hz] using hdecided)

theorem refused (h : Accounted earlier) (hdoing : ∀ e ∈ doings, e.isDoing = true) (zone : Zone)
    (period : Period) (status : Status) :
    Accounted (.refused zone :: (doings ++ .told zone period status :: earlier)) := by
  have hlast := last_telling hdoing zone period status earlier
  refine ⟨fun z hend => ?_, fun z last hdecided => ?_⟩
  · obtain ⟨htold, hadopted, hended, -, -⟩ := hlast z
    by_cases hz : zone = z
    · exact absurd (by simp [lastEnd, Event.ends, hz]) hend
    · have hend' : lastEnd z earlier ≠ some false := by
        rw [← hended]
        simpa [lastEnd, Event.ends, hz] using hend
      rw [if_neg hz] at htold
      exact htold.trans ((h.ended z hend').trans hadopted.symm)
  · obtain ⟨-, hadopted, -, hsame, -⟩ := hlast z
    rw [decision_idle rfl, hsame] at hdecided
    exact hadopted.trans (h.decided z last hdecided)

end Telling

end Accounted

namespace Scheduler

open Act
open Calendar (Moment)

theorem Deal.accounted {w w' : World} (hdeal : Deal w w') (hw : Remembers w)
    (h : Accounted w.trace.reverse) : Accounted w'.trace.reverse := by
  obtain ⟨events, htrace, hadds⟩ := hdeal.adds
  have hdoing' : ∀ {doings : List Event}, (∀ e ∈ doings, e.isDoing = true) →
      ∀ e ∈ doings.reverse, e.isDoing = true :=
    fun hdoing e he => hdoing e (List.mem_reverse.1 he)
  rw [htrace, List.reverse_append]
  cases hadds with
  | notes hnotes => exact h.notes fun e he => hnotes e (List.mem_reverse.1 he)
  | adopted zone period status hhas _ hdoing =>
    rw [hw.schedule] at hhas
    have hnote : ∀ e ∈ [Event.noted (.pushed zone status period)], ∃ n, e = .noted n :=
      fun e he => ⟨_, List.mem_singleton.1 he⟩
    have hadopted := (h.adopted hhas (hdoing' hdoing) period status).notes hnote
    simpa using hadopted
  | refused zone period status _ _ hdoing =>
    have hrefused := h.refused (hdoing' hdoing) zone period status
    simpa using hrefused

theorem Undisturbed.accounted {w : World} (h : Undisturbed w) : Accounted w.trace.reverse :=
  h.induct (fun _ _ => .nil) Deal.accounted

/-! ### After an execution -/

/-- A zone that did not refuse has adopted what it was told. -/
theorem Zonewise.adopted_of_told {now : When} {entries : List (Zone × Table)}
    {refusals : Zone → Option Failure} {doings : Zone → List Event} {w w' : World}
    (h : Zonewise now entries refusals doings w w') {zone : Zone}
    (hwilling : refusedSince w w' zone = false)
    (htold : ∃ period status, Event.told zone period status ∈ since w w') :
    ∃ period status, Event.adopted zone period status ∈ since w w' := by
  obtain ⟨table, hmem, hdue⟩ := (h.told_iff zone).1 htold
  obtain ⟨⟨period, status⟩, hdue⟩ := Option.isSome_iff_exists.1 hdue
  have hrefusal : refusals zone = none := by
    rcases hrefusal : refusals zone with _ | cause
    · rfl
    · have hrefused := (h.refusedSince_iff zone).2
        ⟨table, hmem, by rw [hdue]; rfl, by rw [hrefusal]; rfl⟩
      rw [hwilling] at hrefused
      exact absurd hrefused Bool.false_ne_true
  obtain ⟨hforce, hnew⟩ := due?_eq_some.1 hdue
  refine ⟨period, status, ?_⟩
  rw [since_of_trace h.trace, List.mem_flatMap]
  refine ⟨(zone, table), hmem, ?_⟩
  simp [visitEvents, hforce, hnew, hrefusal]

/-- A zone that did not refuse since a world, and refused what it was told last, was told that
before, and nothing since. -/
theorem not_told_of_refused {w w' : World} {refusals : Zone → Option Failure}
    {doings : Zone → List Event} {now : When} {entries : List (Zone × Table)}
    (h : Zonewise now entries refusals doings w w') {zone : Zone}
    (hwilling : refusedSince w w' zone = false)
    (hlast : lastEnd zone w'.trace.reverse = some false) (period : Period) (status : Status) :
    Event.told zone period status ∉ since w w' := by
  intro htold
  obtain ⟨period', status', hadopted⟩ := h.adopted_of_told hwilling ⟨period, status, htold⟩
  rw [h.trace, ← since_of_trace h.trace, List.reverse_append, lastEnd, List.findSome?_append]
    at hlast
  rcases hend : (since w w').reverse.findSome? (Event.ends zone) with _ | adopts
  · have hnone := List.findSome?_eq_none_iff.1 hend _ (List.mem_reverse.2 hadopted)
    simp [Event.ends] at hnone
  · rw [hend, Option.some_or, Option.some.injEq] at hlast
    obtain ⟨e, he, hends⟩ := List.exists_of_findSome?_eq_some hend
    rw [hlast] at hends
    have hrefuses : e.refuses zone = true := by
      cases e with
      | refused z =>
        by_cases hz : z = zone
        · simp [Event.refuses, hz]
        · simp [Event.ends, hz] at hends
      | adopted z p s =>
        by_cases hz : z = zone
        · simp [Event.ends, hz] at hends
        · simp [Event.ends, hz] at hends
      | _ => simp [Event.ends] at hends
    rw [refusedSince, List.any_eq_false] at hwilling
    exact hwilling e (List.mem_reverse.1 he) hrefuses

/-! ### A den that refuses for an afternoon

The den of the cottage alone, whose status is another one in the afternoon.  It is told its status
in the forenoon, refuses the other one in the afternoon, and from then on refuses no more.
-/

namespace Cottage

def off : Status := ⟨.zero false, 0, false, true⟩

def twofold : Table := ⟨[(forenoon, warm), (afternoon, off)], by decide⟩

def nextDay : Moment := ⟨1, 10 * 60 * Calendar.microsPerMinute, atTen.micros_lt, none⟩

def fickle : World :=
  (begin (some (pure ⟨[(den, twofold)], by decide⟩))
    (World.initial .default { surroundings with conducts := ∅ })).2

def inForenoon : World := (take (.execute (some (.moment atTen))) fickle).2

def refusing : World := (take (.setRefusal den (some .outOfRange)) inForenoon).2

def inAfternoon : World := (take (.execute (some (.moment atOne))) refusing).2

def willing : World := (take (.setRefusal den none) inAfternoon).2

def onNextDay : World := (take (.execute (some (.moment nextDay))) willing).2

theorem inForenoon_eq : inForenoon =
    (visitAll (takeSteps take) (.moment atTen) [(den, ⟨0, twofold⟩)] fickle).2 :=
  take_execute_single rfl

theorem inAfternoon_eq : inAfternoon =
    (visitAll (takeSteps take) (.moment atOne) [(den, ⟨0, twofold⟩)] refusing).2 := by
  refine take_execute_single ?_
  rw [refusing, inForenoon_eq]
  rfl

theorem onNextDay_eq : onNextDay =
    (visitAll (takeSteps take) (.moment nextDay) [(den, ⟨0, twofold⟩)] willing).2 := by
  refine take_execute_single ?_
  rw [willing, inAfternoon_eq, refusing, inForenoon_eq]
  rfl

theorem trace_onNextDay : onNextDay.trace = willing.trace ++
    [.noted (.work (.periodMatches forenoon (.moment nextDay)))] := by
  rw [onNextDay_eq, willing, inAfternoon_eq, refusing, inForenoon_eq]
  rfl

theorem since_onNextDay : since willing onNextDay =
    [.noted (.work (.periodMatches forenoon (.moment nextDay)))] :=
  since_of_trace trace_onNextDay

theorem undisturbed_willing : Undisturbed willing := by
  have hfirst : KeptAside fickle inForenoon := by
    rw [inForenoon_eq]
    unfold KeptAside
    decide
  have hsecond : KeptAside inForenoon refusing := by
    rw [refusing, inForenoon_eq]
    unfold KeptAside
    decide
  have hthird : KeptAside refusing inAfternoon := by
    rw [inAfternoon_eq, refusing, inForenoon_eq]
    unfold KeptAside
    decide
  have hfourth : KeptAside inAfternoon willing := by
    rw [willing, inAfternoon_eq, refusing, inForenoon_eq]
    unfold KeptAside
    decide
  have hbegun : Undisturbed fickle := .begun _ _ _
  exact (((hbegun.taken _ hfirst).taken _ hsecond).taken _ hthird).taken _ hfourth

theorem keptAside_onNextDay : KeptAside willing onNextDay := by
  rw [KeptAside, since_onNextDay]
  decide

theorem willing_onNextDay (zone : Zone) : refusedSince willing onNextDay zone = false := by
  rw [refusedSince, since_onNextDay]
  rfl

theorem table_onNextDay : onNextDay.scheduler.schedule.get? den = some twofold := by
  rw [onNextDay_eq, willing, inAfternoon_eq, refusing, inForenoon_eq]
  rfl

theorem lastTold_onNextDay : lastTold den onNextDay.trace.reverse = some (afternoon, off) := by
  rw [onNextDay_eq, willing, inAfternoon_eq, refusing, inForenoon_eq]
  rfl

end Cottage

/-! ### What was told last -/

/-- **After an execution at a moment in an undisturbed run, in which nobody refuses, the latest
status that a zone has adopted is in force, up to equality by value.**  So is the latest that it was
told, unless it refused that before the execution, and then the execution tells it nothing. -/
theorem latest_after_execution {w w' : World} (h : Undisturbed w) {t : Moment}
    (hexecute : (take (.execute (some (.moment t))) w).2 = w') (hkept : KeptAside w w')
    (hwilling : ∀ zone, refusedSince w w' zone = false) {zone : Zone} {table : Table}
    (htable : w'.scheduler.schedule.get? zone = some table) {period : Period} {status : Status}
    (hforce : table.inForce t = some (period, status)) :
    ∃ last, lastAdopted zone w'.trace.reverse = some last ∧ status.eqv last.2 = true ∧
      (lastTold zone w'.trace.reverse = some last ∨
        lastEnd zone w'.trace.reverse = some false ∧
          ∀ period status, Event.told zone period status ∉ since w w') := by
  have hw' : Undisturbed w' := by
    subst hexecute
    exact h.taken _ hkept
  obtain ⟨hended, hdecided⟩ := hw'.accounted
  obtain ⟨last, hlast, heqv, -⟩ :=
    decision_after_execution h.reachable hexecute hkept htable (hwilling zone) hforce
  have hadopted := hdecided zone last hlast
  refine ⟨last, hadopted, heqv, ?_⟩
  by_cases hend : lastEnd zone w'.trace.reverse = some false
  · right
    subst hexecute
    obtain ⟨refusals, doings, hvisits⟩ := execution_visits rfl hkept
    exact ⟨hend, not_told_of_refused hvisits (hwilling zone) hend⟩
  · left
    exact (hended zone hend).trans hadopted

/-- On the next day the latest status that the den has adopted is in force again, and the den is
told nothing. -/
theorem latest_of_cottage : ∃ last,
    lastAdopted Cottage.den Cottage.onNextDay.trace.reverse = some last ∧
      Cottage.warm.eqv last.2 = true ∧
      ∀ period status, Event.told Cottage.den period status ∉
        since Cottage.willing Cottage.onNextDay := by
  have hforce : Cottage.twofold.inForce Cottage.nextDay =
      some (Cottage.forenoon, Cottage.warm) := by decide
  have hexecute : (take (.execute (some (.moment Cottage.nextDay))) Cottage.willing).2 =
      Cottage.onNextDay := rfl
  obtain ⟨last, hadopted, heqv, htold | ⟨-, hnone⟩⟩ :=
    latest_after_execution Cottage.undisturbed_willing hexecute Cottage.keptAside_onNextDay
      Cottage.willing_onNextDay Cottage.table_onNextDay hforce
  · have hlast := htold.symm.trans Cottage.lastTold_onNextDay
    rw [Option.some.inj hlast] at heqv
    exact absurd heqv (by decide)
  · exact ⟨last, hadopted, heqv, hnone⟩

/-- What a zone was told last need not be in force. -/
theorem latest_telling_need_not_be_in_force :
    ¬∀ (w w' : World) (t : Moment) (zone : Zone) (table : Table) (period : Period)
      (status : Status), Undisturbed w → (take (.execute (some (.moment t))) w).2 = w' →
      KeptAside w w' → (∀ zone, refusedSince w w' zone = false) →
      w'.scheduler.schedule.get? zone = some table → table.inForce t = some (period, status) →
      ∃ last, lastTold zone w'.trace.reverse = some last ∧ status.eqv last.2 = true := by
  intro h
  have hforce : Cottage.twofold.inForce Cottage.nextDay =
      some (Cottage.forenoon, Cottage.warm) := by decide
  obtain ⟨last, htold, heqv⟩ := h _ _ _ _ _ _ _ Cottage.undisturbed_willing rfl
    Cottage.keptAside_onNextDay Cottage.willing_onNextDay Cottage.table_onNextDay hforce
  have hlast := htold.symm.trans Cottage.lastTold_onNextDay
  rw [Option.some.inj hlast] at heqv
  exact absurd heqv (by decide)

end Scheduler
end ZonePlan
