/-
When a zone is told a status again that it has adopted.

In an undisturbed run a zone adopts a status only while it is scheduled, and only if it was not
decided last that it has an equal one.  These are facts about the past of each adoption, so they are
an invariant of the trace alone (`Sparing`), and the rest is about traces: what a zone adopts stays
decided until the zone is vacated, dropped from the schedule, or adopts another status.  Nothing
else takes part in it: equal schedules, other tables, statuses that were refused, runs of the
updater that fail.

That this works rests on equality by value being reflexive, which holds as setpoints are finite.
-/
import ZonePlan.Proofs.Scheduler.Applied
import ZonePlan.Proofs.Scheduler.Settled
import ZonePlan.Proofs.Scheduler.Undisturbed

namespace ZonePlan

/-- Whether an event is that a zone has adopted a status. -/
def Event.isAdoption : Event → Bool
  | .adopted _ _ _ => true
  | _ => false

theorem Event.isAdoption_doing {e : Event} (h : e.isDoing = true) : e.isAdoption = false := by
  cases e with
  | adopted zone period status => simp [Event.isDoing] at h
  | _ => rfl

/-! ### Traces

They are read backwards, the latest event first.
-/

/-- What is certain when something happens after other things: a zone that adopts a status is
scheduled, and it was not decided last that it has an equal one. -/
def Event.Warranted (earlier : List Event) : Event → Prop
  | .adopted zone _ status => (lastInstalled earlier).has zone = true ∧
      ∀ last, decision zone earlier = some last → status.eqv last.2 = false
  | _ => True

/-- All that happened was warranted. -/
def Sparing : List Event → Prop
  | [] => True
  | e :: earlier => e.Warranted earlier ∧ Sparing earlier

namespace Sparing

theorem of_append {later earlier : List Event} (h : Sparing (later ++ earlier)) :
    Sparing earlier := by
  induction later with
  | nil => exact h
  | cons e rest ih => exact ih h.2

/-- Only adoptions need a warrant. -/
theorem append {events earlier : List Event} (h : Sparing earlier)
    (hnone : ∀ e ∈ events, e.isAdoption = false) : Sparing (events ++ earlier) := by
  induction events with
  | nil => exact h
  | cons e rest ih =>
    refine ⟨?_, ih fun e' he' => hnone e' (List.mem_cons_of_mem _ he')⟩
    have he := hnone e List.mem_cons_self
    cases e with
    | adopted zone period status => simp [Event.isAdoption] at he
    | _ => trivial

end Sparing

theorem decision_append_idle {events : List Event} (h : ∀ e ∈ events, e.isIdle = true)
    (zone : Zone) (earlier : List Event) :
    decision zone (events ++ earlier) = decision zone earlier ∧
      lastInstalled (events ++ earlier) = lastInstalled earlier := by
  induction events with
  | nil => exact ⟨rfl, rfl⟩
  | cons e rest ih =>
    obtain ⟨hdecision, hinstalled⟩ := ih fun e' he' => h e' (List.mem_cons_of_mem _ he')
    have he := h e List.mem_cons_self
    rw [List.cons_append, decision_idle he, lastInstalled_idle he]
    exact ⟨hdecision, hinstalled⟩

/-- The only events that decide something for a zone: it adopts a status, it is vacated, or it is
dropped from the schedule. -/
theorem decides_cases (live : Schedule) (zone : Zone) (e : Event) :
    e.decides live zone = none ∨ (∃ period status, e = .adopted zone period status) ∨
      e = .noted (.noActivePeriod zone) ∨
      ∃ schedule, e = .noted (.scheduleReplaced schedule) ∧ schedule.has zone = false := by
  rcases e with n | _ | ⟨z, period, status⟩ | _ | _
  · cases n with
    | scheduleReplaced schedule =>
      rcases hnew : schedule.has zone with _ | _
      · exact .inr (.inr (.inr ⟨schedule, rfl, hnew⟩))
      · exact .inl (by simp [Event.decides, hnew])
    | noActivePeriod z =>
      by_cases hz : z = zone
      · exact .inr (.inr (.inl (by rw [hz])))
      · exact .inl (by simp [Event.decides, hz])
    | _ => exact .inl rfl
  · exact .inl rfl
  · by_cases hz : z = zone
    · exact .inr (.inl ⟨period, status, by rw [hz]⟩)
    · exact .inl (by simp [Event.decides, hz])
  · exact .inl rfl
  · exact .inl rfl

/-- Only an adoption decides on a period. -/
theorem decision_of_cons {zone : Zone} {e : Event} (h : e.isAdoption = false)
    {earlier : List Event} {last : Period × Status}
    (hdecided : decision zone (e :: earlier) = some last) : decision zone earlier = some last := by
  rw [decision] at hdecided
  rcases decides_cases (lastInstalled earlier) zone e with
    hnone | ⟨period, status, rfl⟩ | rfl | ⟨schedule, rfl, hnew⟩
  · rwa [hnone] at hdecided
  · simp [Event.isAdoption] at h
  · simp [Event.decides] at hdecided
  · simp [Event.decides, hnew] at hdecided

/-- What a scheduled zone has adopted stays decided, as long as it adopts nothing else, is not
vacated, and is not dropped from the schedule. -/
theorem decided_until {zone : Zone} {period : Period} {status : Status} {earlier : List Event}
    (hhas : (lastInstalled earlier).has zone = true) {between : List Event}
    (hnone : ∀ period status, Event.adopted zone period status ∉ between) :
    .noted (.noActivePeriod zone) ∈ between ∨
      (∃ later schedule before, between = later ++ .noted (.scheduleReplaced schedule) :: before ∧
        (lastInstalled (before ++ .adopted zone period status :: earlier)).has zone = true ∧
        schedule.has zone = false) ∨
      decision zone (between ++ .adopted zone period status :: earlier) =
        some (period, status) := by
  induction between with
  | nil =>
    right
    right
    simp [decision, Event.decides, hhas]
  | cons e rest ih =>
    have hrest : ∀ period status, Event.adopted zone period status ∉ rest :=
      fun period status hmem => hnone period status (List.mem_cons_of_mem _ hmem)
    rcases ih hrest with hvacated | ⟨later, schedule, before, rfl, hdropped⟩ | hdecided
    · exact .inl (List.mem_cons_of_mem _ hvacated)
    · exact .inr (.inl ⟨e :: later, schedule, before, rfl, hdropped⟩)
    · -- So far it is decided, and what comes next leaves it at that or is one of the exceptions.
      rcases decides_cases (lastInstalled (rest ++ .adopted zone period status :: earlier)) zone e
        with hnothing | ⟨period', status', rfl⟩ | rfl | ⟨schedule, rfl, hnew⟩
      · right
        right
        rw [List.cons_append, decision, hnothing]
        exact hdecided
      · exact absurd List.mem_cons_self (hnone period' status')
      · exact .inl List.mem_cons_self
      · have hscheduled := has_of_decision (Option.isSome_iff_exists.2 ⟨_, hdecided⟩)
        exact .inr (.inl ⟨[], schedule, rest, rfl, hscheduled, hnew⟩)

namespace Scheduler

open Act

/-! ### Undisturbed runs are sparing -/

/-- Until a telling ends nothing is decided in it. -/
theorem telling_back {doings : List Event} (hdoing : ∀ e ∈ doings, e.isDoing = true) (zone : Zone)
    (period : Period) (status : Status) :
    ∀ e ∈ doings.reverse ++ [.told zone period status],
      e.isIdle = true ∧ e.isAdoption = false := by
  intro e he
  rcases List.mem_append.1 he with he | he
  · have h := hdoing e (List.mem_reverse.1 he)
    exact ⟨Event.isIdle_of_doing h, Event.isAdoption_doing h⟩
  · rw [List.mem_singleton.1 he]
    exact ⟨rfl, rfl⟩

theorem Deal.sparing {w w' : World} (hdeal : Deal w w') (hw : Remembers w)
    (h : Sparing w.trace.reverse) : Sparing w'.trace.reverse := by
  obtain ⟨events, htrace, hadds⟩ := hdeal.adds
  rw [htrace, List.reverse_append]
  cases hadds with
  | notes hnotes =>
    refine h.append fun e he => ?_
    obtain ⟨n, rfl⟩ := hnotes e (List.mem_reverse.1 he)
    rfl
  | adopted zone period status hhas hnew hdoing =>
    have hback := telling_back hdoing zone period status
    have hbefore := decision_append_idle (fun e he => (hback e he).1) zone w.trace.reverse
    simp only [List.reverse_cons, List.reverse_append, List.reverse_nil, List.nil_append,
      List.cons_append]
    refine ⟨trivial, ⟨?_, ?_⟩, h.append fun e he => (hback e he).2⟩
    · rw [hbefore.2, ← hw.schedule]
      exact hhas
    · -- What was decided is what is remembered, and the zone is told only what is different.
      intro last hlast
      rw [hbefore.1] at hlast
      have hstatus : w.status? zone = some last.2 := by
        have hmemory := congrArg Prod.fst (hw.memory zone)
        rw [hlast] at hmemory
        exact hmemory
      rw [wasTold, hstatus] at hnew
      exact hnew
  | refused zone period status _ _ hdoing =>
    have hback := telling_back hdoing zone period status
    simp only [List.reverse_cons, List.reverse_append, List.reverse_nil, List.nil_append,
      List.cons_append]
    exact ⟨trivial, h.append fun e he => (hback e he).2⟩

theorem Undisturbed.sparing {w : World} (h : Undisturbed w) : Sparing w.trace.reverse :=
  h.induct (fun _ _ => trivial) Deal.sparing

/-- Between two adoptions of equal statuses, one next after the other, the zone is vacated or it is
dropped from the schedule. -/
theorem forgotten_between {trace : List Event} (h : Sparing trace.reverse) {zone : Zone}
    {period period' : Period} {status status' : Status} {earlier between later : List Event}
    (htrace : trace = earlier ++ .adopted zone period status ::
      (between ++ .adopted zone period' status' :: later))
    (hnone : ∀ period status, Event.adopted zone period status ∉ between)
    (heqv : status'.eqv status = true) :
    .noted (.noActivePeriod zone) ∈ between ∨
      ∃ before schedule after, between = before ++ .noted (.scheduleReplaced schedule) :: after ∧
        (lastInstalled (earlier ++ .adopted zone period status :: before).reverse).has zone = true ∧
        schedule.has zone = false := by
  have hback : trace.reverse = later.reverse ++ .adopted zone period' status' ::
      (between.reverse ++ .adopted zone period status :: earlier.reverse) := by
    simp [htrace]
  rw [hback] at h
  obtain ⟨⟨-, hlast⟩, hrest⟩ := h.of_append
  obtain ⟨⟨hhas, -⟩, -⟩ := hrest.of_append
  have hnone' : ∀ period status, Event.adopted zone period status ∉ between.reverse :=
    fun period status hmem => hnone period status (List.mem_reverse.1 hmem)
  rcases decided_until hhas hnone' with hvacated | ⟨after, schedule, before, hsplit, hdropped⟩ |
    hdecided
  · exact .inl (List.mem_reverse.1 hvacated)
  · refine .inr ⟨before.reverse, schedule, after.reverse, ?_, ?_, hdropped.2⟩
    · rw [← List.reverse_reverse between, hsplit]
      simp
    · simpa using hdropped.1
  · have hdifferent := hlast _ hdecided
    rw [heqv] at hdifferent
    exact absurd hdifferent.symm Bool.false_ne_true

/-! ### An execution done twice -/

/-- After a visit what was due is due no more, unless the zone refused. -/
theorem due?_after {zone : Zone} {table : Table} {now : When} {refusal : Option Failure}
    {w w' : World} (hahead : w'.surroundings.ahead = w.surroundings.ahead)
    (hmemory : w'.memory zone = memoryAfter zone table now w refusal) :
    due? zone table now w' = if refusal.isSome then due? zone table now w else none := by
  unfold due?
  rw [hahead]
  unfold memoryAfter at hmemory
  rcases hforce : table.inForceAt w.surroundings.ahead now with cause | _ | ⟨period, status⟩
  · simp
  · simp
  · rw [hforce] at hmemory
    simp only at hmemory ⊢
    by_cases hold : wasTold w zone status = true
    · rw [if_pos hold] at hmemory
      rw [wasTold_congr hmemory, if_pos hold]
      simp
    · rw [if_neg hold] at hmemory
      rw [if_neg hold]
      cases refusal with
      | some cause =>
        rw [wasTold_congr hmemory, if_neg hold]
        rfl
      | none =>
        have hstatus : w'.status? zone = some status := congrArg Prod.fst hmemory
        have htold : wasTold w' zone status = true := by
          rw [wasTold, hstatus]
          exact status.eqv_refl
        rw [if_pos htold]
        rfl

namespace Zonewise

variable {now : When} {entries : List (Zone × Table)} {refusals refusals' : Zone → Option Failure}
  {doings doings' : Zone → List Event} {w w₁ w₂ : World}

/-- What zones are told, in order. -/
theorem tellings (h : Zonewise now entries refusals doings w w₁) :
    (since w w₁).filterMap Event.telling? = entries.filterMap fun e =>
      (due? e.1 e.2 now w).map fun due => (e.1, due.1, due.2) := by
  rw [since_of_trace h.trace, List.filterMap_flatMap, List.filterMap_eq_flatMap_toList]
  exact List.flatMap_congr fun e _ => telling?_visitEvents (h.doing e.1)

theorem told_iff (h : Zonewise now entries refusals doings w w₁) (zone : Zone) :
    (∃ period status, Event.told zone period status ∈ since w w₁) ↔
      ∃ table, (zone, table) ∈ entries ∧ (due? zone table now w).isSome = true := by
  have hmem : ∀ period status, Event.told zone period status ∈ since w w₁ ↔
      (zone, period, status) ∈ (since w w₁).filterMap Event.telling? := by
    intro period status
    rw [List.mem_filterMap]
    constructor
    · intro htold
      exact ⟨_, htold, rfl⟩
    · rintro ⟨e, he, htelling⟩
      cases e with
      | told z p s =>
        simp only [Event.telling?, Option.some.injEq, Prod.mk.injEq] at htelling
        obtain ⟨rfl, rfl, rfl⟩ := htelling
        exact he
      | _ => simp [Event.telling?] at htelling
  simp only [hmem, h.tellings, List.mem_filterMap, Option.map_eq_some_iff, Prod.mk.injEq]
  constructor
  · rintro ⟨period, status, ⟨z, table⟩, he, due, hdue, rfl, -⟩
    exact ⟨table, he, by rw [hdue]; rfl⟩
  · rintro ⟨table, he, hdue⟩
    obtain ⟨due, hdue⟩ := Option.isSome_iff_exists.1 hdue
    exact ⟨due.1, due.2, (zone, table), he, due, hdue, rfl, rfl, rfl⟩

/-- When zones are visited a second time, those are told that refused, what they were told. -/
theorem tellings_again (h : Zonewise now entries refusals doings w w₁)
    (h' : Zonewise now entries refusals' doings' w₁ w₂)
    (hahead : w₁.surroundings.ahead = w.surroundings.ahead) :
    (since w₁ w₂).filterMap Event.telling? =
      ((since w w₁).filterMap Event.telling?).filter fun telling =>
        refusedSince w w₁ telling.1 := by
  rw [h'.tellings, h.tellings, List.filter_filterMap]
  refine List.filterMap_congr fun e he => ?_
  obtain ⟨zone, table⟩ := e
  rw [due?_after hahead (h.visited _ he)]
  rcases hdue : due? zone table now w with _ | due
  · simp
  · have hrefused := h.refusedSince_iff zone
    rcases hrefusal : refusals zone with _ | cause
    · have hnot : refusedSince w w₁ zone = false := by
        rw [← Bool.not_eq_true, hrefused]
        rintro ⟨_, -, -, hsome⟩
        rw [hrefusal] at hsome
        exact Bool.false_ne_true hsome
      simp [Option.filter, hnot]
    · have hyes : refusedSince w w₁ zone = true :=
        hrefused.2 ⟨table, he, by rw [hdue]; rfl, by rw [hrefusal]; rfl⟩
      simp [Option.filter, hyes]

theorem told_again_iff (h : Zonewise now entries refusals doings w w₁)
    (h' : Zonewise now entries refusals' doings' w₁ w₂)
    (hahead : w₁.surroundings.ahead = w.surroundings.ahead) (zone : Zone) :
    (∃ period status, Event.told zone period status ∈ since w₁ w₂) ↔
      refusedSince w w₁ zone = true := by
  rw [h'.told_iff, h.refusedSince_iff]
  refine exists_congr fun table => and_congr_right fun he => ?_
  rw [due?_after hahead (h.visited _ he)]
  rcases refusals zone with _ | cause
  · simp
  · simp

end Zonewise

/-! ### A den that comes and goes

In the cottage, from when the den takes no more steps and the porch refuses to be set, the den is
told its status, dropped from the schedule and entered again, twice over.
-/

namespace Cottage

def comeAndGone : List Step :=
  [.setHook den [] 0, .setRefusal porch (some .outOfRange), .apply den noon none,
    .replace (pure ∅), .replace (pure plan), .apply den noon none, .replace (pure ∅),
    .replace (pure plan)]

def returned : World := afterAll comeAndGone made

theorem undisturbed_returned : Undisturbed returned := by
  refine (Undisturbed.begun _ _ _ : Undisturbed made).afterAll comeAndGone ?_
  unfold KeptAside
  decide

theorem trace_returned : returned.trace =
    [.noted (.scheduleReplaced plan), .noted (.work (.periodMatches allDay noon)),
      .told den allDay warm] ++ .adopted den allDay warm ::
    ([.noted (.pushed den warm allDay), .noted (.zonesDropped [den, porch]),
      .noted (.scheduleReplaced ∅), .noted (.scheduleReplaced plan),
      .noted (.work (.periodMatches allDay noon)), .told den allDay warm] ++
      .adopted den allDay warm ::
    [.noted (.pushed den warm allDay), .noted (.zonesDropped [den, porch]),
      .noted (.scheduleReplaced ∅), .noted (.scheduleReplaced plan)]) := rfl

def again : World := (take (.execute (some noon)) returned).2

theorem again_eq : again = (visitAll (takeSteps take) noon
    [(den, ⟨4, table⟩), (porch, ⟨5, table⟩)] returned).2 := by
  have hsnapshot : returned.scheduler.snapshot = [(den, ⟨4, table⟩), (porch, ⟨5, table⟩)] :=
    List.mergeSort_of_pairwise (by decide)
  rw [again, take_execute rfl, hsnapshot]

theorem keptAside_again : KeptAside returned again := by
  rw [again_eq]
  unfold KeptAside
  decide

theorem keptAside_again_again : KeptAside again (take (.execute (some noon)) again).2 := by
  have hsnapshot : again.scheduler.snapshot = [(den, ⟨4, table⟩), (porch, ⟨5, table⟩)] := by
    rw [again_eq]
    exact List.mergeSort_of_pairwise (by decide)
  rw [take_execute rfl, hsnapshot, again_eq]
  unfold KeptAside
  decide

end Cottage

/-! ### In a run -/

/-- **In an undisturbed run a zone is told again what it has adopted only if it was forgotten in
between**: no period was in force for it, or a schedule was installed that dropped it.  A zone is
said to be in no period only where a table was applied to it in which none matched.  And when an
execution is done twice, the second time just those zones are told that refused the first time, and
they are told the same. -/
theorem told_again_only_if_forgotten {w : World} (h : Undisturbed w) :
    (∀ zone period status period' status' earlier between later,
      w.trace = earlier ++ .adopted zone period status ::
        (between ++ .adopted zone period' status' :: later) →
      (∀ period status, Event.adopted zone period status ∉ between) →
      status'.eqv status = true →
      .noted (.noActivePeriod zone) ∈ between ∨
        ∃ before schedule after, between = before ++ .noted (.scheduleReplaced schedule) :: after ∧
          (lastInstalled (earlier ++ .adopted zone period status :: before).reverse).has zone =
            true ∧
          schedule.has zone = false) ∧
    (∀ zone before after, w.trace = before ++ .noted (.noActivePeriod zone) :: after →
      Arose w before (.noted (.noActivePeriod zone))) ∧
    ∀ now : When, now.isGiven = true → ∀ w₁ w₂, (take (.execute (some now)) w).2 = w₁ →
      (take (.execute (some now)) w₁).2 = w₂ → KeptAside w w₁ → KeptAside w₁ w₂ →
        (since w₁ w₂).filterMap Event.telling? =
          ((since w w₁).filterMap Event.telling?).filter
            (fun telling => refusedSince w w₁ telling.1) ∧
        ∀ zone, (∃ period status, Event.told zone period status ∈ since w₁ w₂) ↔
          refusedSince w w₁ zone = true := by
  refine ⟨?_, ?_, ?_⟩
  · intro zone period status period' status' earlier between later htrace hnone heqv
    exact forgotten_between h.sparing htrace hnone heqv
  · intro zone before after hsplit
    exact h.reachable.arose hsplit rfl
  · intro now hnow w₁ w₂ hfirst hsecond hkept hkept'
    subst hfirst hsecond
    obtain ⟨refusals, doings, hvisits⟩ := execution_visits hnow hkept
    obtain ⟨refusals', doings', hvisits'⟩ := execution_visits hnow hkept'
    have hschedule : (take (.execute (some now)) w).2.scheduler.schedule =
        w.scheduler.schedule := by
      rw [Scheduler.schedule, hvisits.live, Scheduler.schedule]
    rw [hschedule] at hvisits'
    have hahead := Moves.ahead (take_moves (.execute (some now)) w)
    exact ⟨hvisits.tellings_again hvisits' hahead, hvisits.told_again_iff hvisits' hahead⟩

/-- In the cottage the den was dropped before it was told again what it had adopted.  When an
execution is done twice, the second time the porch alone is told, which refused. -/
theorem tellings_of_cottage :
    (∃ schedule, Event.noted (.scheduleReplaced schedule) ∈ Cottage.returned.trace ∧
      schedule.has Cottage.den = false) ∧
    (since Cottage.again (take (.execute (some Cottage.noon)) Cottage.again).2).filterMap
      Event.telling? = [(Cottage.porch, Cottage.allDay, Cottage.warm)] := by
  obtain ⟨hagain, -, htwice⟩ := told_again_only_if_forgotten Cottage.undisturbed_returned
  constructor
  · rcases hagain _ _ _ _ _ _ _ _ Cottage.trace_returned (by simp) (Status.eqv_refl _) with
      hvacated | ⟨before, schedule, after, hbetween, -, hdropped⟩
    · simp at hvacated
    · refine ⟨schedule, ?_, hdropped⟩
      rw [Cottage.trace_returned, hbetween]
      simp
  · rw [(htwice Cottage.noon rfl Cottage.again _ rfl rfl Cottage.keptAside_again
      Cottage.keptAside_again_again).1, Cottage.again_eq]
    rfl

end Scheduler
end ZonePlan
