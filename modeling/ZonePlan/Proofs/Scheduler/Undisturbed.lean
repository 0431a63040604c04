/-
Runs in which zones leave the scheduler alone.

A zone that is told a status may take steps of its own, and what it does then comes between the
beginning of the telling and its end.  As long as no zone acts on the scheduler this makes no
difference: a telling is of one piece, and what the scheduler knew when it began it still knows
when it ends.  So a run is a row of `Deal`s.  They are the moves of a run, except that a telling is
a single one, and that they say what a scheduler makes sure of before it tells a zone anything: the
zone is scheduled, and it was not told an equal status last.

That no zone acted on the scheduler is only known of a step when it is over, so what is carried
through the definitions is conditional (`InDeals`): a step is a row of deals if no zone acted on the
scheduler in it.
-/
import ZonePlan.Proofs.Scheduler.Aside
import ZonePlan.Proofs.Scheduler.Memory
import ZonePlan.Proofs.Scheduler.Snapshot

namespace ZonePlan

theorem Event.isIdle_of_doing {e : Event} (h : e.isDoing = true) : e.isIdle = true := by
  cases e with
  | noted n =>
    cases n with
    | work n => rfl
    | _ => simp [Event.isDoing] at h
  | hooked zone step result => rfl
  | _ => simp [Event.isDoing] at h

namespace Scheduler

open Act

/-! ### Deals -/

/-- One of the few things that happen to a world while no zone acts on the scheduler. -/
inductive Deal : World → World → Prop
  | note (w : World) (n : Note) (h : (Event.noted n).isIdle = true) :
      Deal w (w.record [.noted n])
  | outside (w : World) (s : Surroundings) (h : s.ahead = w.surroundings.ahead) :
      Deal w { w with surroundings := s }
  | control (w : World) (running : Bool) (lastCall : Option Nat) (hasWorker : Bool) :
      Deal w { w with scheduler := { w.scheduler with running, lastCall, hasWorker } }
  | install (w : World) (schedule : Schedule) : Deal w (installed schedule w)
  | vacate (w : World) (zone : Zone) (h : w.scheduler.schedule.has zone = true) :
      Deal w (vacated zone w)
  /-- A scheduled zone is told a status that it was not told last, and adopts it. -/
  | adopt {w w' : World} {zone : Zone} {period : Period} {status : Status} {doings : List Event}
      (hhas : w.scheduler.schedule.has zone = true) (hnew : wasTold w zone status = false)
      (hbesides : Besides doings (w.record [.told zone period status]) w') :
      Deal w (adopted zone period status w')
  /-- A scheduled zone is told a status that it was not told last, and refuses it. -/
  | refuse {w w' : World} {zone : Zone} {period : Period} {status : Status} {doings : List Event}
      (hhas : w.scheduler.schedule.has zone = true) (hnew : wasTold w zone status = false)
      (hbesides : Besides doings (w.record [.told zone period status]) w') :
      Deal w (w'.record [.refused zone])

/-- A row of deals. -/
abbrev Deals : World → World → Prop := Relation.ReflTransGen Deal

theorem deals_zoneless : Zoneless (fun _ => True) Deals where
  refl _ := .refl
  trans h h' := h.trans h'
  keeps h _ := h
  note w n h := .single (.note w n h)
  outside w s h _ := .single (.outside w s h)
  control w running lastCall hasWorker := .single (.control w running lastCall hasWorker)
  install w schedule := .single (.install w schedule)

/-! ### Deals are made of moves -/

theorem Besides.moves {doings : List Event} {w w' : World} (h : Besides doings w w') :
    Moves w w' := by
  have hrecord := record_moves (fun e he => Event.isIdle_of_doing (h.doing e he)) w
  have hw' : { w.record doings with surroundings := w'.surroundings } = w' := by
    rw [World.record, ← h.trace, ← h.scheduler]
  have houtside : Move (w.record doings) w' := by
    rw [← hw']
    exact .outside _ _ h.ahead
  exact hrecord.tail houtside

theorem Deal.moves {w w' : World} (h : Deal w w') : Moves w w' := by
  cases h with
  | note n h => exact .single (.idle w _ h)
  | outside s h => exact .single (.outside w s h)
  | control running lastCall hasWorker => exact .single (.control w running lastCall hasWorker)
  | install schedule => exact .single (.install w schedule)
  | vacate zone h => exact .single (.vacate w zone h)
  | adopt _ _ hbesides =>
    exact .head (.idle w _ rfl) (hbesides.moves.tail (.adopt _ _ _ _))
  | refuse _ _ hbesides =>
    exact .head (.idle w _ rfl) (hbesides.moves.tail (.idle _ _ rfl))

theorem Deals.moves {w w' : World} (h : Deals w w') : Moves w w' := by
  induction h with
  | refl => exact .refl
  | tail _ hlast ih => exact ih.trans hlast.moves

/-- What a deal may add to the trace: notes, or a telling with what the zone does until its end. -/
inductive Adds (w : World) : List Event → Prop
  | notes {events : List Event} (h : ∀ e ∈ events, ∃ n, e = .noted n) : Adds w events
  | adopted (zone : Zone) (period : Period) (status : Status) {doings : List Event}
      (hhas : w.scheduler.schedule.has zone = true) (hnew : wasTold w zone status = false)
      (hdoing : ∀ e ∈ doings, e.isDoing = true) :
      Adds w (.told zone period status :: (doings ++
        [.adopted zone period status, .noted (.pushed zone status period)]))
  | refused (zone : Zone) (period : Period) (status : Status) {doings : List Event}
      (hhas : w.scheduler.schedule.has zone = true) (hnew : wasTold w zone status = false)
      (hdoing : ∀ e ∈ doings, e.isDoing = true) :
      Adds w (.told zone period status :: (doings ++ [.refused zone]))

theorem replacement_notes (dropped : List Zone) (schedule : Schedule) :
    ∀ e ∈ replacement dropped schedule, ∃ n, e = .noted n := by
  intro e he
  rcases List.mem_append.1 he with he | he
  · split at he
    · exact absurd he List.not_mem_nil
    · exact ⟨_, List.mem_singleton.1 he⟩
  · exact ⟨_, List.mem_singleton.1 he⟩

/-- **All that a deal adds to the trace.** -/
theorem Deal.adds {w w' : World} (h : Deal w w') :
    ∃ events, w'.trace = w.trace ++ events ∧ Adds w events := by
  have hsilent : ∀ e ∈ ([] : List Event), ∃ n, e = .noted n :=
    fun _ he => absurd he List.not_mem_nil
  cases h with
  | note n _ => exact ⟨_, rfl, .notes fun e he => ⟨n, List.mem_singleton.1 he⟩⟩
  | outside s _ => exact ⟨[], (List.append_nil _).symm, .notes hsilent⟩
  | control running lastCall hasWorker => exact ⟨[], (List.append_nil _).symm, .notes hsilent⟩
  | install schedule => exact ⟨_, rfl, .notes (replacement_notes _ schedule)⟩
  | vacate zone _ => exact ⟨_, rfl, .notes fun e he => ⟨_, List.mem_singleton.1 he⟩⟩
  | @adopt w' zone period status doings hhas hnew hbesides =>
    have hhas' : w'.scheduler.schedule.has zone = true := by
      rw [hbesides.scheduler]
      exact hhas
    refine ⟨_, ?_, .adopted zone period status hhas hnew hbesides.doing⟩
    simp [ZonePlan.Scheduler.adopted, hhas', hbesides.trace]
  | @refuse w' zone period status doings hhas hnew hbesides =>
    refine ⟨_, ?_, .refused zone period status hhas hnew hbesides.doing⟩
    simp [hbesides.trace]

/-- What each deal keeps is kept by a row of deals.  That a scheduler remembers what its trace
says may be used on the way. -/
theorem Deals.keep {I : World → Prop}
    (hdeal : ∀ {w w'}, Deal w w' → Remembers w → I w → I w') {w w' : World} (h : Deals w w')
    (hw : Remembers w) (hI : I w) : I w' := by
  induction h with
  | refl => exact hI
  | tail hfirst hlast ih => exact hdeal hlast (Moves.keep Remembers.move (Deals.moves hfirst) hw) ih

/-! ### Steps are made of deals -/

/-- If no zone acted on the scheduler between one world and a later one, it was in deals that the
one came from the other. -/
def InDeals (w w' : World) : Prop := w.trace <+: w'.trace ∧ (KeptAside w w' → Deals w w')

theorem InDeals.of_deals {w w' : World} (h : Deals w w') : InDeals w w' :=
  ⟨(Since.of_moves h.moves).trace, fun _ => h⟩

theorem inDeals_zoneless : Zoneless (fun _ => True) InDeals where
  refl w := .of_deals .refl
  trans h h' := by
    refine ⟨h.1.trans h'.1, fun hkept => ?_⟩
    obtain ⟨hfirst, hsecond⟩ := hkept.split h.1 h'.1
    exact (h.2 hfirst).trans (h'.2 hsecond)
  keeps h _ := h
  note w n h := .of_deals (deals_zoneless.note w n h)
  outside w s h h' := .of_deals (deals_zoneless.outside w s h h')
  control w running lastCall hasWorker :=
    .of_deals (deals_zoneless.control w running lastCall hasWorker)
  install w schedule := .of_deals (deals_zoneless.install w schedule)

theorem push_inDeals {zone : Zone} {w : World} (hhas : w.scheduler.schedule.has zone = true)
    (period : Period) (status : Status) :
    InDeals w (push (takeSteps take) zone period status w).2 := by
  have hmoves := (push_follows moves_course takeSteps_take_moving.reacts zone period status w
    trivial).2
  refine ⟨(Since.of_moves hmoves).trace, fun hkept => ?_⟩
  rcases hnew : wasTold w zone status with _ | _
  · have htell := tell_since zone period status w
    rw [push_world hnew] at hkept ⊢
    -- What follows on a telling is not a zone's doing, so the telling was kept aside as well.
    have haside : KeptAside w (tell (takeSteps take) zone period status w).2 := by
      rcases hend : tell (takeSteps take) zone period status w with ⟨cause | ⟨⟨⟩⟩, w'⟩
      · rw [hend] at hkept
        exact hkept
      · rw [hend] at hkept htell
        exact (hkept.split htell.trace (told_since zone period status (.ok (), w')).1.trace).1
    obtain ⟨doings, w₁, hbesides, hend, -⟩ := tell_besides haside
    rw [hend, conclude_apply]
    rcases (w₁.conduct zone).refusal with _ | cause
    · simp only [told_adopted]
      exact .single (.adopt hhas hnew hbesides)
    · exact .single (.refuse hhas hnew hbesides)
  · rw [push_of_told hnew]

theorem searched_deals (table : Table) (now : When) (w : World) :
    Deals w (searched table now w) := by
  refine deals_zoneless.record ?_ w
  intro e he
  obtain ⟨n, rfl⟩ := Table.mem_searchEvents he
  exact ⟨_, rfl⟩

theorem applies_inDeals :
    Applies (fun _ => True) InDeals (takeSteps take) (takeSteps take) := by
  intro zone table now w _
  refine ⟨rfl, ?_⟩
  by_cases hhas : w.scheduler.schedule.has zone = true
  · have hsearched := InDeals.of_deals (searched_deals table now w)
    rw [apply_of_scheduled _ table now hhas]
    rcases table.inForceAt w.surroundings.ahead now with cause | _ | ⟨period, status⟩
    · exact inDeals_zoneless.refl w
    · exact inDeals_zoneless.trans hsearched (.of_deals (.single (.vacate _ zone hhas)))
    · exact inDeals_zoneless.trans hsearched
        (push_inDeals (w := searched table now w) hhas period status)
  · rw [apply_of_unscheduled _ _ _ (by simpa using hhas)]
    exact inDeals_zoneless.note w _ rfl

/-- **A step in which no zone acts on the scheduler is a row of deals.** -/
theorem take_deals {step : Step} {w : World} (h : KeptAside w (take step w).2) :
    Deals w (take step w).2 := by
  rcases hstep : step.changesConduct with _ | _
  · rw [take_eq] at h ⊢
    exact (perform_follows inDeals_zoneless applies_inDeals hstep w trivial).2.2 h
  · rw [take_eq]
    cases step with
    | setRefusal zone refusal => exact .single (.outside w _ rfl)
    | setHook zone steps times => exact .single (.outside w _ rfl)
    | _ => simp [Step.changesConduct] at hstep

/-! ### Runs -/

/-- A world between two steps of a session in which no zone has acted on the scheduler. -/
inductive Undisturbed : World → Prop
  /-- A scheduler was made. -/
  | begun (settings : Settings) (surroundings : Surroundings)
      (schedule : Option (Logged Schedule)) :
      Undisturbed (begin schedule (World.initial settings surroundings)).2
  /-- A step was taken. -/
  | taken {w : World} (step : Step) (h : Undisturbed w) (hkept : KeptAside w (take step w).2) :
      Undisturbed (take step w).2

theorem Undisturbed.reachable {w : World} (h : Undisturbed w) : Reachable w := by
  induction h with
  | begun settings surroundings schedule => exact .begun settings surroundings schedule
  | taken step _ _ ih => exact ih.taken step

theorem afterAll_since (steps : List Step) (w : World) : Since w (afterAll steps w) := by
  induction steps generalizing w with
  | nil => exact .refl w
  | cons step rest ih => exact (Since.of_moves (take_moves step w)).trans (ih (take step w).2)

/-- A session in which no zone acts on the scheduler goes on undisturbed. -/
theorem Undisturbed.afterAll {w : World} (h : Undisturbed w) (steps : List Step)
    (hkept : KeptAside w (afterAll steps w)) : Undisturbed (afterAll steps w) := by
  induction steps generalizing w with
  | nil => exact h
  | cons step rest ih =>
    have htaken := Since.of_moves (take_moves step w)
    have hrest := afterAll_since rest (take step w).2
    obtain ⟨hkept, hkept'⟩ := hkept.split htaken.trace hrest.trace
    exact ih (h.taken step hkept) hkept'

theorem Undisturbed.deals {w : World} (h : Undisturbed w) :
    ∃ settings surroundings, Deals (World.initial settings surroundings) w := by
  induction h with
  | begun settings surroundings schedule =>
    exact ⟨settings, surroundings, (begin_follows deals_zoneless schedule _ trivial).2⟩
  | taken step _ hkept ih =>
    obtain ⟨settings, surroundings, h⟩ := ih
    exact ⟨settings, surroundings, h.trans (take_deals hkept)⟩

/-- **What holds of a scheduler that was just made and is kept by each deal holds between any two
steps of an undisturbed run.** -/
theorem Undisturbed.induct {I : World → Prop}
    (hinitial : ∀ settings surroundings, I (World.initial settings surroundings))
    (hdeal : ∀ {w w'}, Deal w w' → Remembers w → I w → I w') {w : World} (h : Undisturbed w) :
    I w := by
  obtain ⟨settings, surroundings, hdeals⟩ := h.deals
  exact Deals.keep hdeal hdeals (remembers_initial settings surroundings)
    (hinitial settings surroundings)

end Scheduler
end ZonePlan
