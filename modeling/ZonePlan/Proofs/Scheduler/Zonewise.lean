/-
An execution is one visit for each zone, as if the zone were alone.

As long as no zone acts on the scheduler while it is told a status, nothing that comes of one
zone reaches another: what happens on a visit (`visitEvents`) and what is remembered after it
(`memoryAfter`) depend on the zone's own table, on what was remembered of it when the execution
began, and on whether it refuses.  Zones that fail, that have nothing in force or that were told
before are no exception.

One visit is `visit_alone`.  The induction over the visits carries that a zone not visited yet is
remembered as in the beginning, which is where it counts that each zone has one place in a
snapshot.
-/
import Mathlib.Data.List.Basic
import ZonePlan.Proofs.Scheduler.Aside
import ZonePlan.Proofs.Scheduler.Memory
import ZonePlan.Proofs.Scheduler.Snapshot

namespace ZonePlan

/-- The telling that an event is, if it is one. -/
def Event.telling? : Event → Option (Zone × Period × Status)
  | .told zone period status => some (zone, period, status)
  | _ => none

/-- The note of an error that an event is, if it is one. -/
def Event.error? : Event → Option Note
  | .noted n => if n.level = .error then some n else none
  | _ => none

theorem Event.telling?_doing {e : Event} (h : e.isDoing = true) : e.telling? = none := by
  cases e with
  | told zone period status => simp [Event.isDoing] at h
  | _ => rfl

theorem Event.error?_doing {e : Event} (h : e.isDoing = true) : e.error? = none := by
  cases e with
  | noted n =>
    cases n with
    | work n => cases n <;> rfl
    | _ => simp [Event.isDoing] at h
  | _ => rfl

namespace Scheduler

open Act

/-! ### One zone -/

/-- What happens on a visit to a zone with a table in force, when it does such things of its own
and refuses for such a reason, if it does. -/
def visitEvents (zone : Zone) (table : Table) (now : When) (w : World) (refusal : Option Failure)
    (doings : List Event) : List Event :=
  table.searchEvents w.surroundings.ahead now ++
    match table.inForceAt w.surroundings.ahead now with
    | .error cause => [.noted (.pushFailed zone cause)]
    | .ok none => [.noted (.noActivePeriod zone)]
    | .ok (some (period, status)) =>
      if wasTold w zone status then []
      else .told zone period status :: (doings ++
        match refusal with
        | some cause => [.refused zone, .noted (.pushFailed zone cause)]
        | none => [.adopted zone period status, .noted (.pushed zone status period)])

/-- What is remembered of a zone after a visit: nothing when no period is in force; what is in
force when the zone was told it and adopted it; and else what was remembered before. -/
def memoryAfter (zone : Zone) (table : Table) (now : When) (w : World)
    (refusal : Option Failure) : Option Status × Option Period :=
  match table.inForceAt w.surroundings.ahead now with
  | .error _ => w.memory zone
  | .ok none => (none, none)
  | .ok (some (period, status)) =>
    if wasTold w zone status then w.memory zone
    else match refusal with
      | some _ => w.memory zone
      | none => (some status, some period)

/-- Why a visit fails, if it does: what is in force cannot be said, or the zone is told and
refuses. -/
def failure? (zone : Zone) (table : Table) (now : When) (w : World) (refusal : Option Failure) :
    Option Failure :=
  match table.inForceAt w.surroundings.ahead now with
  | .error cause => some cause
  | .ok _ => (due? zone table now w).bind fun _ => refusal

/-- A visit to a zone changes nothing but what is remembered of it. -/
structure Alone (zone : Zone) (table : Table) (now : When) (refusal : Option Failure)
    (doings : List Event) (w w' : World) : Prop where
  live : w'.scheduler.live = w.scheduler.live
  ahead : w'.surroundings.ahead = w.surroundings.ahead
  trace : w'.trace = w.trace ++ visitEvents zone table now w refusal doings
  visited : w'.memory zone = memoryAfter zone table now w refusal
  others : ∀ z, z ≠ zone → w'.memory z = w.memory z
  doing : ∀ e ∈ doings, e.isDoing = true
  /-- Without steps of its own a zone does nothing and refuses what it is bound to. -/
  still : (∀ z, (w.conduct z).times = 0) → w'.surroundings = w.surroundings ∧
    refusal = (w.conduct zone).refusal ∧ doings = []

theorem told_alone {zone : Zone} {table : Table} {now : When} {period : Period} {status : Status}
    {w : World} (hhas : w.scheduler.schedule.has zone = true)
    (hdue : due? zone table now w = some (period, status))
    (h : KeptAside (searched table now w)
      (tell (takeSteps take) zone period status (searched table now w)).2) :
    ∃ refusal doings, Alone zone table now refusal doings w
      (told zone period status
        (tell (takeSteps take) zone period status (searched table now w))) := by
  obtain ⟨hforce, hnew⟩ := due?_eq_some.1 hdue
  obtain ⟨doings, w₁, hbesides, htell, hstill⟩ := tell_besides h
  have hscheduler : w₁.scheduler = w.scheduler := hbesides.scheduler
  have hlive : w₁.scheduler.live = w.scheduler.live := by rw [hscheduler]
  have htrace : w₁.trace = w.trace ++ (table.searchEvents w.surroundings.ahead now ++
      .told zone period status :: doings) := by
    rw [hbesides.trace]
    simp [searched]
  have hmemory : ∀ z, w₁.memory z = w.memory z := by
    intro z
    simp only [World.memory, World.status?, World.period?, hscheduler]
  have hstill' : (∀ z, (w.conduct z).times = 0) → w₁.surroundings = w.surroundings ∧
      (w₁.conduct zone).refusal = (w.conduct zone).refusal ∧ doings = [] := by
    intro hzero
    obtain ⟨hdoings, hw₁⟩ := hstill (hzero zone)
    rw [hw₁]
    exact ⟨rfl, rfl, hdoings⟩
  rw [htell, conclude_apply]
  rcases hrefusal : (w₁.conduct zone).refusal with _ | cause
  · have hhas₁ : (w₁.record [.adopted zone period status]).scheduler.schedule.has zone = true := by
      rw [World.record_scheduler, hscheduler]
      exact hhas
    rw [hrefusal] at hstill'
    refine ⟨none, doings, ?_⟩
    simp only [told, if_pos hhas₁]
    refine ⟨hlive, hbesides.ahead, ?_, ?_, ?_, hbesides.doing, hstill'⟩
    · simp [htrace, visitEvents, hforce, hnew]
    · simp only [memoryAfter, hforce, hnew]
      exact (memory_remember zone status period _ zone).trans (if_pos rfl)
    · intro z hz
      exact ((memory_remember zone status period _ z).trans (if_neg hz)).trans (hmemory z)
  · rw [hrefusal] at hstill'
    refine ⟨some cause, doings, hlive, hbesides.ahead, ?_, ?_,
      fun z _ => hmemory z, hbesides.doing, hstill'⟩
    · simp [told, htrace, visitEvents, hforce, hnew]
    · simp only [memoryAfter, hforce, hnew]
      exact hmemory zone

/-- **A visit to a zone whose copy is in force, on which no zone acts on the scheduler, is a
matter of that zone alone.** -/
theorem visit_alone {zone : Zone} {copy : Copy} {now : When} {w : World}
    (hcopy : w.scheduler.live.get? zone = some copy)
    (h : KeptAside w (visit (takeSteps take) now (zone, copy) w).2) :
    ∃ refusal doings w', visit (takeSteps take) now (zone, copy) w = (.ok (), w') ∧
      Alone zone copy.table now refusal doings w w' := by
  have hlive : w.scheduler.isLive zone copy = true := by
    simp [Scheduler.isLive, hcopy]
  obtain ⟨w', hvisit, hvisits⟩ := visit_live (takeSteps take) now hlive
  rw [hvisit] at h
  have hnone : ∀ e ∈ ([] : List Event), e.isDoing = true := fun _ he => absurd he List.not_mem_nil
  cases hvisits with
  | @failed cause hforce =>
    refine ⟨(w.conduct zone).refusal, [], _, hvisit, rfl, rfl, ?_, ?_, fun _ _ => rfl, hnone,
      fun _ => ⟨rfl, rfl, rfl⟩⟩
    · simp [visitEvents, Table.searchEvents, hforce]
    · simp only [memoryAfter, hforce]
      rfl
  | vacant hforce =>
    refine ⟨(w.conduct zone).refusal, [], _, hvisit, rfl, rfl, ?_, ?_, ?_, hnone,
      fun _ => ⟨rfl, rfl, rfl⟩⟩
    · simp [visitEvents, hforce, vacated, searched]
    · simp only [memoryAfter, hforce]
      exact (memory_forget zone _ zone).trans (if_pos rfl)
    · intro z hz
      exact (memory_forget zone _ z).trans (if_neg hz)
  | @same period status hforce hsame =>
    refine ⟨(w.conduct zone).refusal, [], _, hvisit, rfl, rfl, ?_, ?_, fun _ _ => rfl, hnone,
      fun _ => ⟨rfl, rfl, rfl⟩⟩
    · simp [visitEvents, hforce, hsame, searched]
    · simp only [memoryAfter, hforce, hsame, if_true]
      rfl
  | @told period status hdue =>
    have htell := tell_since zone period status (searched copy.table now w)
    have htold := (told_since zone period status
      (tell (takeSteps take) zone period status (searched copy.table now w))).1
    have hsearched := searched_since copy.table now w
    have hkept := (h.split hsearched.trace (htell.trans htold).trace).2
    obtain ⟨refusal, doings, halone⟩ :=
      told_alone (isLive_scheduled hlive) hdue (hkept.split htell.trace htold.trace).1
    exact ⟨refusal, doings, _, hvisit, halone⟩

/-! ### All zones -/

section Congr

variable {zone : Zone} {w w' : World}

theorem wasTold_congr (h : w'.memory zone = w.memory zone) (status : Status) :
    wasTold w' zone status = wasTold w zone status := by
  have hstatus : w'.status? zone = w.status? zone := congrArg Prod.fst h
  rw [wasTold, hstatus, wasTold]

theorem visitEvents_congr (hahead : w'.surroundings.ahead = w.surroundings.ahead)
    (h : w'.memory zone = w.memory zone) (table : Table) (now : When) (refusal : Option Failure)
    (doings : List Event) : visitEvents zone table now w' refusal doings =
      visitEvents zone table now w refusal doings := by
  simp only [visitEvents, hahead, wasTold_congr h]

theorem memoryAfter_congr (hahead : w'.surroundings.ahead = w.surroundings.ahead)
    (h : w'.memory zone = w.memory zone) (table : Table) (now : When) (refusal : Option Failure) :
    memoryAfter zone table now w' refusal = memoryAfter zone table now w refusal := by
  simp only [memoryAfter, hahead, wasTold_congr h, h]

end Congr

/-- Zones were visited one after the other, and each as if it were alone: `refusals` says which of
them refuse, or would, and `doings` what they do of their own. -/
structure Zonewise (now : When) (entries : List (Zone × Table)) (refusals : Zone → Option Failure)
    (doings : Zone → List Event) (w w' : World) : Prop where
  live : w'.scheduler.live = w.scheduler.live
  trace : w'.trace = w.trace ++
    entries.flatMap fun e => visitEvents e.1 e.2 now w (refusals e.1) (doings e.1)
  visited : ∀ e ∈ entries, w'.memory e.1 = memoryAfter e.1 e.2 now w (refusals e.1)
  others : ∀ zone, zone ∉ entries.map (·.1) → w'.memory zone = w.memory zone
  doing : ∀ zone, ∀ e ∈ doings zone, e.isDoing = true
  /-- Where no zone takes steps of its own, those refuse that are bound to. -/
  still : (∀ z, (w.conduct z).times = 0) →
    ∀ zone, refusals zone = (w.conduct zone).refusal ∧ doings zone = []

theorem Zonewise.nil (now : When) (w : World) :
    Zonewise now [] (fun zone => (w.conduct zone).refusal) (fun _ => []) w w where
  live := rfl
  trace := (List.append_nil _).symm
  visited _ he := absurd he List.not_mem_nil
  others _ _ := rfl
  doing _ _ he := absurd he List.not_mem_nil
  still _ _ := ⟨rfl, rfl⟩

/-- A visit before others.  Those come upon their zones as they were before it. -/
theorem Zonewise.cons {now : When} {zone : Zone} {table : Table} {rest : List (Zone × Table)}
    {refusal : Option Failure} {doing : List Event} {refusals : Zone → Option Failure}
    {doings : Zone → List Event} {w v w' : World} (hfirst : Alone zone table now refusal doing w v)
    (hrest : Zonewise now rest refusals doings v w') (hzone : zone ∉ rest.map (·.1)) :
    Zonewise now ((zone, table) :: rest) (Function.update refusals zone refusal)
      (Function.update doings zone doing) w w' := by
  have hne : ∀ e ∈ rest, e.1 ≠ zone := by
    rintro e he rfl
    exact hzone (List.mem_map_of_mem he)
  refine ⟨hrest.live.trans hfirst.live, ?_, ?_, ?_, ?_, ?_⟩
  · rw [hrest.trace, hfirst.trace, List.flatMap_cons, Function.update_self, Function.update_self,
      List.append_assoc]
    congr 2
    -- The zones behind were not touched by the visit, so what is to come of them is the same.
    refine List.flatMap_congr ?_
    intro e he
    rw [Function.update_of_ne (hne e he), Function.update_of_ne (hne e he)]
    exact visitEvents_congr hfirst.ahead (hfirst.others e.1 (hne e he)) _ _ _ _
  · intro e he
    rcases List.mem_cons.1 he with rfl | he
    · rw [Function.update_self, hrest.others zone hzone]
      exact hfirst.visited
    · rw [Function.update_of_ne (hne e he), hrest.visited e he]
      exact memoryAfter_congr hfirst.ahead (hfirst.others e.1 (hne e he)) _ _ _
  · intro z hz
    rw [List.map_cons, List.mem_cons, not_or] at hz
    rw [hrest.others z hz.2, hfirst.others z hz.1]
  · intro z e he
    by_cases hz : z = zone
    · subst hz
      rw [Function.update_self] at he
      exact hfirst.doing e he
    · rw [Function.update_of_ne hz] at he
      exact hrest.doing z e he
  · intro hstill z
    obtain ⟨hsurroundings, hrefusal, hdoing⟩ := hfirst.still hstill
    have hconduct : ∀ z, v.conduct z = w.conduct z := by
      intro z
      rw [World.conduct, hsurroundings, World.conduct]
    by_cases hz : z = zone
    · subst hz
      rw [Function.update_self, Function.update_self]
      exact ⟨hrefusal, hdoing⟩
    · rw [Function.update_of_ne hz, Function.update_of_ne hz, ← hconduct]
      exact hrest.still (fun z => by rw [hconduct]; exact hstill z) z

theorem visitAll_zonewise (now : When) (entries : List (Zone × Copy)) {w : World}
    (hnodup : (entries.map (·.1)).Nodup)
    (hlive : ∀ e ∈ entries, w.scheduler.live.get? e.1 = some e.2)
    (h : KeptAside w (visitAll (takeSteps take) now entries w).2) :
    ∃ refusals doings, Zonewise now (entries.map fun e => (e.1, e.2.table)) refusals doings w
      (visitAll (takeSteps take) now entries w).2 := by
  induction entries generalizing w with
  | nil => exact ⟨_, _, .nil now w⟩
  | cons entry rest ih =>
    obtain ⟨zone, copy⟩ := entry
    rw [List.map_cons, List.nodup_cons] at hnodup
    rw [visitAll_cons] at h ⊢
    have hvisit := Since.of_moves (visit_moves now (zone, copy) w)
    have hvisits := Since.of_moves
      (visitAll_moves now rest (visit (takeSteps take) now (zone, copy) w).2)
    obtain ⟨hkept, hkept'⟩ := h.split hvisit.trace hvisits.trace
    obtain ⟨refusal, doing, v, hv, halone⟩ :=
      visit_alone (hlive (zone, copy) List.mem_cons_self) hkept
    rw [hv] at hkept' ⊢
    obtain ⟨refusals, doings, hrest⟩ := ih hnodup.2
      (fun e he => by rw [halone.live]; exact hlive e (List.mem_cons_of_mem _ he)) hkept'
    -- A zone has one place, so the rest does not come upon it again.
    refine ⟨_, _, .cons halone hrest ?_⟩
    rw [List.map_map]
    exact hnodup.1

/-! ### What an execution tells, and what it reports -/

theorem searchEvents_doing (table : Table) (ahead : Int) (now : When) :
    ∀ e ∈ table.searchEvents ahead now, e.isDoing = true := by
  intro e he
  obtain ⟨n, rfl⟩ := Table.mem_searchEvents he
  rfl

section Filtered

variable {zone : Zone} {table : Table} {now : When} {w : World} {refusal : Option Failure}
  {doings : List Event}

/-- A visit tells its zone what is due, and nothing else. -/
theorem telling?_visitEvents (h : ∀ e ∈ doings, e.isDoing = true) :
    (visitEvents zone table now w refusal doings).filterMap Event.telling? =
      ((due? zone table now w).map fun due => (zone, due.1, due.2)).toList := by
  have hsearch : (table.searchEvents w.surroundings.ahead now).filterMap Event.telling? = [] :=
    List.filterMap_eq_nil_iff.2 fun e he =>
      Event.telling?_doing (searchEvents_doing _ _ _ e he)
  have hdoings : doings.filterMap Event.telling? = [] :=
    List.filterMap_eq_nil_iff.2 fun e he => Event.telling?_doing (h e he)
  unfold visitEvents due?
  rw [List.filterMap_append, hsearch, List.nil_append]
  rcases table.inForceAt w.surroundings.ahead now with cause | _ | ⟨period, status⟩
  · rfl
  · rfl
  · simp only
    split
    · rfl
    · rw [List.filterMap_cons, List.filterMap_append, hdoings]
      cases refusal <;> rfl

/-- The one error that a visit may note is that it failed. -/
theorem error?_visitEvents (h : ∀ e ∈ doings, e.isDoing = true) :
    (visitEvents zone table now w refusal doings).filterMap Event.error? =
      ((failure? zone table now w refusal).map fun cause => .pushFailed zone cause).toList := by
  have hsearch : (table.searchEvents w.surroundings.ahead now).filterMap Event.error? = [] :=
    List.filterMap_eq_nil_iff.2 fun e he => Event.error?_doing (searchEvents_doing _ _ _ e he)
  have hdoings : doings.filterMap Event.error? = [] :=
    List.filterMap_eq_nil_iff.2 fun e he => Event.error?_doing (h e he)
  unfold visitEvents failure? due?
  rw [List.filterMap_append, hsearch, List.nil_append]
  rcases table.inForceAt w.surroundings.ahead now with cause | _ | ⟨period, status⟩
  · rfl
  · rfl
  · simp only
    split
    · rfl
    · rw [List.filterMap_cons, List.filterMap_append, hdoings]
      cases refusal <;> rfl

end Filtered

/-- A snapshot holds the tables in force, by the names of their zones. -/
theorem snapshot_tables (s : Scheduler) :
    s.snapshot.map (fun e => (e.1, e.2.table)) = Zone.byName s.schedule.entries :=
  List.map_mergeSort fun _ _ _ _ => rfl

theorem take_execute {now : When} (hnow : now.isGiven = true) (w : World) :
    take (.execute (some now)) w =
      (.ok .nothing, (visitAll (takeSteps take) now w.scheduler.snapshot w).2) := by
  have hmoment : momentOr (some now) w = (.ok now, w) := by
    simp [momentOr, hnow]
  exact (congrFun (congrFun take_eq _) w).trans (bind_of_ok (execute_of_moment hmoment))

/-- **An execution at a given moment on which no zone acts on the scheduler returns, leaves the
schedule as it is, and comes to a visit to each scheduled zone as if it were alone.**  Zones are
told what is due by their names, those of one name in their order in the schedule; errors are
noted for those zones for which what is in force cannot be said, or that refuse, and for no
others. -/
theorem execute_zonewise {w : World} {now : When} (hnow : now.isGiven = true)
    (haside : KeptAside w (take (.execute (some now)) w).2) :
    ∃ refusals doings w', take (.execute (some now)) w = (.ok .nothing, w') ∧
      w'.scheduler.schedule = w.scheduler.schedule ∧
      Zonewise now (Zone.byName w.scheduler.schedule.entries) refusals doings w w' ∧
      (since w w').filterMap Event.telling? =
        (Zone.byName w.scheduler.schedule.entries).filterMap (fun e =>
          (due? e.1 e.2 now w).map fun due => (e.1, due.1, due.2)) ∧
      (since w w').filterMap Event.error? =
        (Zone.byName w.scheduler.schedule.entries).filterMap (fun e =>
          (failure? e.1 e.2 now w (refusals e.1)).map fun cause => .pushFailed e.1 cause) ∧
      (Zone.byName w.scheduler.schedule.entries).Pairwise (fun a b =>
        a.1.name.notAfter b.1.name) ∧
      ∀ name, (Zone.byName w.scheduler.schedule.entries).filter (fun e => e.1.name = name) =
        w.scheduler.schedule.entries.filter fun e => e.1.name = name := by
  rw [take_execute hnow] at haside
  have hnodup : (w.scheduler.snapshot.map (·.1)).Nodup :=
    ((Zone.byName_perm w.scheduler.live.entries).map _).nodup_iff.2 w.scheduler.live.nodup
  obtain ⟨refusals, doings, hzonewise⟩ := visitAll_zonewise now w.scheduler.snapshot hnodup
    (fun e he => mem_snapshot.1 he) haside
  rw [snapshot_tables] at hzonewise
  refine ⟨refusals, doings, _, take_execute hnow w, ?_, hzonewise, ?_, ?_,
    Zone.byName_pairwise _, Zone.filter_byName _⟩
  · rw [Scheduler.schedule, hzonewise.live, Scheduler.schedule]
  · rw [since_of_trace hzonewise.trace, List.filterMap_flatMap, List.filterMap_eq_flatMap_toList]
    exact List.flatMap_congr fun e _ => telling?_visitEvents (hzonewise.doing e.1)
  · rw [since_of_trace hzonewise.trace, List.filterMap_flatMap, List.filterMap_eq_flatMap_toList]
    exact List.flatMap_congr fun e _ => error?_visitEvents (hzonewise.doing e.1)

namespace Cottage

/-- The den takes no more steps, and the porch refuses to be set. -/
def calm : World :=
  (take (.setRefusal porch (some .outOfRange)) (take (.setHook den [] 0) made).2).2

theorem snapshot_calm : calm.scheduler.snapshot = [(den, ⟨0, table⟩), (porch, ⟨1, table⟩)] :=
  List.mergeSort_of_pairwise (by decide)

theorem keptAside_calm : KeptAside calm (take (.execute (some noon)) calm).2 := by
  rw [take_execute rfl, snapshot_calm]
  unfold KeptAside
  decide

theorem still_calm (z : Zone) : (calm.conduct z).times = 0 := by
  have hconducts : calm.surroundings.conducts =
      ⟨[(den, ⟨none, [], 0⟩), (porch, ⟨some .outOfRange, [], 0⟩)], by decide⟩ := rfl
  by_cases hden : z = den
  · subst hden
    rfl
  · by_cases hporch : z = porch
    · subst hporch
      rfl
    · simp [World.conduct, hconducts, Registry.get?, Ne.symm hden, Ne.symm hporch, Conduct.plain]

end Cottage

/-- After an execution in the cottage the den has its status.  The porch refused and has none, and
that is the only error. -/
theorem zones_of_cottage :
    ∃ w', take (.execute (some Cottage.noon)) Cottage.calm = (.ok .nothing, w') ∧
      w'.memory Cottage.den = (some Cottage.warm, some Cottage.allDay) ∧
      w'.memory Cottage.porch = (none, none) ∧
      (since Cottage.calm w').filterMap Event.error? = [.pushFailed Cottage.porch .outOfRange] := by
  have hnow : Cottage.noon.isGiven = true := rfl
  obtain ⟨refusals, doings, w', htake, -, hzonewise, -, herrors, -⟩ :=
    execute_zonewise hnow Cottage.keptAside_calm
  have hden : refusals Cottage.den = none :=
    (hzonewise.still Cottage.still_calm Cottage.den).1
  have hporch : refusals Cottage.porch = some .outOfRange :=
    (hzonewise.still Cottage.still_calm Cottage.porch).1
  refine ⟨w', htake, ?_, ?_, ?_⟩
  · have h := hzonewise.visited (Cottage.den, Cottage.table) (Zone.mem_byName.2 List.mem_cons_self)
    rw [hden] at h
    exact h
  · have h := hzonewise.visited (Cottage.porch, Cottage.table)
      (Zone.mem_byName.2 (List.mem_cons_of_mem _ List.mem_cons_self))
    rw [hporch] at h
    exact h
  · rw [herrors, ← snapshot_tables, Cottage.snapshot_calm]
    simp only [List.map_cons, List.map_nil, List.filterMap_cons, List.filterMap_nil, hden, hporch]
    rfl

end Scheduler
end ZonePlan
