/-
What a step can do.

Whatever is done to a scheduler comes down to a few things: something happens that decides
nothing, the surroundings change, the scheduler starts or stops, a schedule is installed, a
zone is forgotten because no period is in force for it, a zone adopts a status.  `Course` says
of a relation between worlds that it holds along each of them.  `perform_follows` then says
that it holds along every step, as long as it holds along what zones do of their own.

Zones have a part in a step only where a table is applied to them.  So of a relation that holds
along the rest of the few things, which is `Zoneless`, it is enough to know that it holds there
(`Applies`).  A course does, since it holds along each thing that a zone may do (`Reacts.applies`);
a relation that holds only of zones that keep to themselves is shown to do so directly
(`Proofs/Scheduler/Undisturbed.lean`).

Two zones' doings, `react` and `react'`, are followed at once.  Where they agree on the worlds
that are met, which is what `P` is for, the step comes out the same with either of them.  So
one walk through the definitions gives two things: with `react` twice, what a step leads to
(`Proofs/Scheduler/Moves.lean`); with two depths, that depth does not matter
(`Proofs/Scheduler/Depth.lean`).
-/
import ZonePlan.Scheduler.Session

namespace ZonePlan

/-- Whether an event says nothing about what zones were told or about the schedule. -/
def Event.isIdle : Event → Bool
  | .adopted _ _ _ | .noted (.scheduleReplaced _) | .noted (.noActivePeriod _) => false
  | _ => true

/-- Whether a step changes how a zone behaves. -/
def Step.changesConduct : Step → Bool
  | .setRefusal _ _ | .setHook _ _ _ => true
  | _ => false

/-- Whether a step applies tables to zones. -/
def Step.appliesTables : Step → Bool
  | .tick | .execute _ | .apply _ _ _ => true
  | _ => false

namespace Scheduler

open Act

/-! ### The few things -/

/-- The world in which a zone that is told a status takes its steps. -/
def asked (zone : Zone) (period : Period) (status : Status) (w : World) : World :=
  { w.record [.told zone period status] with surroundings := useHook zone w.surroundings }

/-- What is noted on a replaced schedule. -/
def replacement (dropped : List Zone) (schedule : Schedule) : List Event :=
  (if dropped.isEmpty then [] else [.noted (.zonesDropped dropped)]) ++
    [.noted (.scheduleReplaced schedule)]

/-- The world with a schedule installed. -/
def installed (schedule : Schedule) (w : World) : World :=
  { w.record (replacement (w.scheduler.schedule.dropped schedule) schedule) with
    scheduler := install schedule w.scheduler }

/-- The world in which a zone is forgotten because no period is in force for it. -/
def vacated (zone : Zone) (w : World) : World :=
  { w.record [.noted (.noActivePeriod zone)] with scheduler := forget zone w.scheduler }

/-- The world in which a zone has adopted a status.  It is remembered for a scheduled zone. -/
def adopted (zone : Zone) (period : Period) (status : Status) (w : World) : World :=
  if w.scheduler.schedule.has zone then
    { w.record [.adopted zone period status, .noted (.pushed zone status period)] with
      scheduler := remember zone status period w.scheduler }
  else w.record [.adopted zone period status]

/-- The notes that stalled calls leave when they come to their ends. -/
def lateNotes (w : World) : List Event :=
  w.surroundings.stalled.entries.flatMap fun e => e.2.gives.notes.map fun n => .noted (.work n)

/-- The world in which the stalled calls have come to their ends. -/
def released (w : World) : World :=
  { w.record (lateNotes w) with surroundings := { w.surroundings with stalled := ∅ } }

/-- A relation that holds along each of the few things.  It need only do so in worlds in which
`P` holds, and `P` is not lost along it. -/
structure Course (P : World → Prop) (R : World → World → Prop) : Prop where
  refl : ∀ w, R w w
  trans : ∀ {u v w}, R u v → R v w → R u w
  keeps : ∀ {w w'}, P w → R w w' → P w'
  idle : ∀ w (e : Event), e.isIdle = true → R w (w.record [e])
  outside : ∀ w s, s.ahead = w.surroundings.ahead → s.conducts = w.surroundings.conducts →
    R w { w with surroundings := s }
  control : ∀ w running lastCall hasWorker,
    R w { w with scheduler := { w.scheduler with running, lastCall, hasWorker } }
  install : ∀ w schedule, R w (installed schedule w)
  vacate : ∀ w zone, w.scheduler.schedule.has zone = true → R w (vacated zone w)
  adopt : ∀ w zone period status, R w (adopted zone period status w)

/-- A relation that holds along those of the few things that zones have no part in.  It need only
do so in worlds in which `P` holds, and `P` is not lost along it. -/
structure Zoneless (P : World → Prop) (R : World → World → Prop) : Prop where
  refl : ∀ w, R w w
  trans : ∀ {u v w}, R u v → R v w → R u w
  keeps : ∀ {w w'}, P w → R w w' → P w'
  note : ∀ w (n : Note), (Event.noted n).isIdle = true → R w (w.record [.noted n])
  outside : ∀ w s, s.ahead = w.surroundings.ahead → s.conducts = w.surroundings.conducts →
    R w { w with surroundings := s }
  control : ∀ w running lastCall hasWorker,
    R w { w with scheduler := { w.scheduler with running, lastCall, hasWorker } }
  install : ∀ w schedule, R w (installed schedule w)

theorem Course.zoneless {P : World → Prop} {R : World → World → Prop} (hc : Course P R) :
    Zoneless P R where
  refl := hc.refl
  trans := hc.trans
  keeps := hc.keeps
  note w n := hc.idle w (.noted n)
  outside := hc.outside
  control := hc.control
  install := hc.install

/-- Two acts that are the same wherever `P` holds, and along which a relation holds. -/
def Follows {α : Type} (P : World → Prop) (R : World → World → Prop) (x y : Act α) : Prop :=
  ∀ w, P w → x w = y w ∧ R w (x w).2

/-- What zones do of their own: the same with both, and along the relation. -/
def Reacts (P : World → Prop) (R : World → World → Prop)
    (react react' : Zone → List Step → Act Unit) : Prop :=
  ∀ zone period status w, P w → 0 < (w.conduct zone).times →
    react zone (w.conduct zone).hook (asked zone period status w) =
      react' zone (w.conduct zone).hook (asked zone period status w) ∧
    R w (react zone (w.conduct zone).hook (asked zone period status w)).2

namespace Follows

variable {P : World → Prop} {R : World → World → Prop} {α β : Type}

theorem bind (hc : Zoneless P R) {x y : Act α} {f g : α → Act β} (hx : Follows P R x y)
    (hf : ∀ a, Follows P R (f a) (g a)) : Follows P R (x >>= f) (y >>= g) := by
  intro w hw
  obtain ⟨heq, hr⟩ := hx w hw
  rw [bind_apply, bind_apply, ← heq]
  rcases hxw : x w with ⟨_ | a, w'⟩
  · rw [hxw] at hr
    exact ⟨rfl, hr⟩
  · rw [hxw] at hr
    obtain ⟨heq', hr'⟩ := hf a w' (hc.keeps hw hr)
    exact ⟨heq', hc.trans hr hr'⟩

theorem attempt {x y : Act α} (hx : Follows P R x y) :
    Follows P R (attempt x) (Act.attempt y) := by
  intro w hw
  obtain ⟨heq, hr⟩ := hx w hw
  exact ⟨by rw [attempt_apply, attempt_apply, heq], hr⟩

/-- An act that only looks at the world goes nowhere. -/
theorem still (hc : Zoneless P R) {x : Act α} (h : ∀ w, (x w).2 = w) : Follows P R x x :=
  fun w _ => ⟨rfl, by rw [h]; exact hc.refl w⟩

theorem pure (hc : Zoneless P R) (a : α) : Follows P R (Pure.pure a) (Pure.pure a) :=
  still hc fun _ => rfl

theorem fail (hc : Zoneless P R) (e : Failure) :
    Follows P R (Act.fail e : Act α) (Act.fail e) := still hc fun _ => rfl

/-- An act that begins by looking at the world. -/
theorem look {f g : World → Act α} (h : ∀ w, Follows P R (f w) (g w)) :
    Follows P R (Act.world >>= f) (Act.world >>= g) := fun w hw => h w w hw

theorem ite {c : Prop} [Decidable c] {x x' y y' : Act α} (hpos : c → Follows P R x y)
    (hneg : ¬c → Follows P R x' y') : Follows P R (if c then x else x') (if c then y else y') := by
  by_cases h : c
  · simpa only [if_pos h] using hpos h
  · simpa only [if_neg h] using hneg h

theorem note (hc : Zoneless P R) {n : Note} (hn : (Event.noted n).isIdle = true) :
    Follows P R (Act.note n) (Act.note n) := fun w _ => ⟨rfl, hc.note w n hn⟩

end Follows

/-- It holds along any notes on the work that is done. -/
theorem Zoneless.record {P : World → Prop} {R : World → World → Prop} (hc : Zoneless P R)
    {events : List Event} (h : ∀ e ∈ events, ∃ n, e = .noted (.work n)) (w : World) :
    R w (w.record events) := by
  induction events generalizing w with
  | nil => rw [World.record_nil]; exact hc.refl w
  | cons e rest ih =>
    obtain ⟨n, rfl⟩ := h e List.mem_cons_self
    have htail := ih (fun e' he' => h e' (List.mem_cons_of_mem _ he')) (w.record [.noted (.work n)])
    rw [World.record_record] at htail
    exact hc.trans (hc.note w (.work n) rfl) htail

/-! ### What zones have no part in -/

section Walk

variable {P : World → Prop} {R : World → World → Prop} {α : Type}

theorem logged_follows (hc : Zoneless P R) (x : Logged α) : Follows P R (logged x) (logged x) := by
  intro w _
  refine ⟨rfl, hc.record (fun e he => ?_) w⟩
  obtain ⟨n, _, rfl⟩ := List.mem_map.1 he
  exact ⟨n, rfl⟩

theorem replaceSchedule_apply (schedule : Schedule) (w : World) :
    replaceSchedule schedule w = (.ok (), installed schedule w) := by
  unfold replaceSchedule
  rw [world_bind, bind_of_ok (changeScheduler_apply _ _)]
  by_cases hd : (w.scheduler.schedule.dropped schedule).isEmpty
  · simp [hd, installed, replacement, World.record]
  · simp [hd, installed, replacement, World.record, bind_apply]

theorem replaceSchedule_follows (hc : Zoneless P R) (schedule : Schedule) :
    Follows P R (replaceSchedule schedule) (replaceSchedule schedule) := by
  intro w _
  rw [replaceSchedule_apply]
  exact ⟨rfl, hc.install w schedule⟩

theorem changeSurroundings_follows (hc : Zoneless P R) {f : Surroundings → Surroundings}
    (ha : ∀ s, (f s).ahead = s.ahead) (hf : ∀ s, (f s).conducts = s.conducts) :
    Follows P R (changeSurroundings f) (changeSurroundings f) :=
  fun w _ => ⟨rfl, hc.outside w _ (ha _) (hf _)⟩

theorem changeScheduler_follows (hc : Zoneless P R) {f : Scheduler → Scheduler}
    (hf : ∀ s, ∃ running lastCall hasWorker, f s = { s with running, lastCall, hasWorker }) :
    Follows P R (changeScheduler f) (changeScheduler f) := by
  intro w _
  obtain ⟨running, lastCall, hasWorker, h⟩ := hf w.scheduler
  refine ⟨rfl, ?_⟩
  rw [changeScheduler_apply, h]
  exact hc.control w running lastCall hasWorker

theorem beginCall_follows (hc : Zoneless P R) (call : UpdaterCall) :
    Follows P R (beginCall call) (beginCall call) := by
  refine Follows.look fun w => Follows.bind hc ?_ fun _ => ?_
  · exact changeSurroundings_follows hc (fun _ => rfl) (fun _ => rfl)
  · exact changeScheduler_follows hc fun s => ⟨s.running, _, true, rfl⟩

theorem timeOut_follows (hc : Zoneless P R) : Follows P R timeOut timeOut :=
  Follows.still hc fun _ => rfl

theorem fetch_follows (hc : Zoneless P R) (updater : Updater) :
    Follows P R (fetch updater) (fetch updater) := by
  refine Follows.look fun w => Follows.bind hc (beginCall_follows hc _) fun _ => ?_
  refine Follows.ite (fun _ => timeOut_follows hc) fun _ => ?_
  refine Follows.bind hc (Follows.attempt (logged_follows hc _)) fun outcome => ?_
  rcases outcome with cause | schedule
  · exact Follows.ite (fun _ => timeOut_follows hc) fun _ => Follows.fail hc cause
  · exact Follows.pure hc schedule

theorem settle_follows (hc : Zoneless P R) (updater : Updater)
    (outcome : Except Failure (Option Schedule)) :
    Follows P R (settle updater outcome) (settle updater outcome) := by
  rcases outcome with cause | _ | schedule
  · exact Follows.ite (fun _ => Follows.note hc rfl) fun _ => Follows.fail hc cause
  · exact Follows.fail hc _
  · exact replaceSchedule_follows hc schedule

theorem update_follows (hc : Zoneless P R) : Follows P R update update := by
  refine Follows.look fun w => ?_
  rcases w.surroundings.updater with _ | updater
  · exact Follows.note hc rfl
  · refine Follows.ite (fun _ => Follows.note hc rfl) fun _ => ?_
    exact Follows.bind hc (Follows.attempt (fetch_follows hc updater)) (settle_follows hc updater)

theorem refresh_follows (hc : Zoneless P R) : Follows P R refresh refresh := by
  refine Follows.bind hc (Follows.attempt (update_follows hc)) fun outcome => ?_
  rcases outcome with cause | _
  · refine Follows.note hc ?_
    unfold refreshNote
    split <;> rfl
  · exact Follows.pure hc ()

theorem release_apply (w : World) : release w = (.ok (), released w) := by
  have hcalls : ∀ (entries : List (Nat × UpdaterCall)) (v : World),
      ((entries.map (·.2)).forM fun call => do let _ ← attempt (logged call.gives) : Act Unit) v =
        (.ok (), v.record
          (entries.flatMap fun e => e.2.gives.notes.map fun n => .noted (.work n))) := by
    intro entries
    induction entries with
    | nil => exact fun v => by rw [List.flatMap_nil, World.record_nil]; rfl
    | cons e rest ih =>
      intro v
      rw [List.flatMap_cons, ← World.record_record]
      exact ih _
  exact hcalls w.surroundings.stalled.entries
    { w with surroundings := { w.surroundings with stalled := ∅ } }

theorem lateNotes_work {w : World} {e : Event} (he : e ∈ lateNotes w) :
    ∃ n, e = .noted (.work n) := by
  obtain ⟨_, -, he⟩ := List.mem_flatMap.1 he
  obtain ⟨n, -, rfl⟩ := List.mem_map.1 he
  exact ⟨n, rfl⟩

theorem release_follows (hc : Zoneless P R) : Follows P R release release := by
  intro w _
  have hnotes : R w (w.record (lateNotes w)) := hc.record (fun _ => lateNotes_work) w
  rw [release_apply]
  exact ⟨rfl, hc.trans hnotes (hc.outside (w.record (lateNotes w)) _ rfl rfl)⟩

theorem start_follows (hc : Zoneless P R) : Follows P R start start := by
  refine Follows.look fun w => Follows.ite (fun _ => Follows.note hc rfl) fun _ => ?_
  refine Follows.ite (fun _ => Follows.fail hc _) fun _ => ?_
  refine Follows.bind hc (changeScheduler_follows hc fun s =>
    ⟨_, s.lastCall, s.hasWorker, rfl⟩) fun _ => ?_
  exact Follows.note hc rfl

theorem stop_follows (hc : Zoneless P R) : Follows P R stop stop := by
  refine Follows.bind hc (changeScheduler_follows hc fun s =>
    ⟨s.running, s.lastCall, false, rfl⟩) fun _ => ?_
  refine Follows.look fun w => Follows.ite (fun _ => ?_) fun _ => Follows.pure hc ()
  refine Follows.bind hc (changeScheduler_follows hc fun s =>
    ⟨false, s.lastCall, s.hasWorker, rfl⟩) fun _ => ?_
  exact Follows.note hc rfl

theorem compareWith_follows (hc : Zoneless P R) (zone : Zone) (status : Status) (setpoint : Double)
    (enabled voting : Bool) : Follows P R (compareWith zone status setpoint enabled voting)
      (compareWith zone status setpoint enabled voting) := by
  refine Follows.ite (fun _ => ?_) fun _ => ?_
  · exact Follows.bind hc (Follows.note hc rfl) fun _ => Follows.pure hc _
  · exact Follows.bind hc (Follows.note hc rfl) fun _ => Follows.pure hc _

theorem momentOfComparison_follows (hc : Zoneless P R) (given : Option When) :
    Follows P R (momentOfComparison given) (momentOfComparison given) :=
  Follows.still hc fun _ => by cases given <;> rfl

theorem deviation_follows (hc : Zoneless P R) (zone : Zone) (setpoint : Double)
    (enabled voting : Bool) (given : Option When) :
    Follows P R (deviation zone setpoint enabled voting given)
      (deviation zone setpoint enabled voting given) := by
  refine Follows.bind hc (momentOfComparison_follows hc given) fun moment => ?_
  refine Follows.look fun w => ?_
  rcases w.scheduler.schedule.get? zone with _ | table
  · exact Follows.bind hc (Follows.note hc rfl) fun _ => Follows.pure hc _
  · refine Follows.bind hc (logged_follows hc _) fun found => ?_
    rcases found with _ | ⟨_, status⟩
    · exact Follows.bind hc (Follows.note hc rfl) fun _ => Follows.pure hc _
    · exact compareWith_follows hc _ _ _ _ _

theorem tableOr_follows (hc : Zoneless P R) (zone : Zone) (table : Option (Logged Table)) :
    Follows P R (tableOr zone table) (tableOr zone table) := by
  rcases table with _ | table
  · exact Follows.still hc fun _ => rfl
  · exact logged_follows hc table

theorem momentOr_follows (hc : Zoneless P R) (given : Option When) :
    Follows P R (momentOr given) (momentOr given) := by
  rcases given with _ | now
  · exact Follows.still hc fun _ => rfl
  · refine Follows.ite (fun _ => Follows.pure hc now) fun _ => ?_
    exact Follows.still hc fun _ => rfl

/-! ### What zones have a part in -/

variable {react react' : Zone → List Step → Act Unit}

theorem letAct_of_due (react : Zone → List Step → Act Unit) {zone : Zone} {period : Period}
    {status : Status} {w : World} (h : 0 < (w.conduct zone).times) :
    letAct react zone (w.record [.told zone period status]) =
      react zone (w.conduct zone).hook (asked zone period status w) := by
  show (if 0 < (w.conduct zone).times then _ else _ : Act Unit) _ = _
  rw [if_pos h]
  rfl

theorem letAct_of_not_due (react : Zone → List Step → Act Unit) {zone : Zone} {period : Period}
    {status : Status} {w : World} (h : ¬0 < (w.conduct zone).times) :
    letAct react zone (w.record [.told zone period status]) =
      (.ok (), w.record [.told zone period status]) := by
  show (if 0 < (w.conduct zone).times then _ else _ : Act Unit) _ = _
  rw [if_neg h]
  rfl

theorem letAct_follows (hc : Course P R) (hr : Reacts P R react react') (zone : Zone)
    (period : Period) (status : Status) {w : World} (hw : P w) :
    letAct react zone (w.record [.told zone period status]) =
        letAct react' zone (w.record [.told zone period status]) ∧
      R w (letAct react zone (w.record [.told zone period status])).2 := by
  by_cases htimes : 0 < (w.conduct zone).times
  · rw [letAct_of_due react htimes, letAct_of_due react' htimes]
    exact hr zone period status w hw htimes
  · rw [letAct_of_not_due react htimes, letAct_of_not_due react' htimes]
    exact ⟨rfl, hc.idle w _ rfl⟩

/-- A zone that was told a status either adopts it last of all, or the telling fails. -/
theorem tell_follows (hc : Course P R) (hr : Reacts P R react react') (zone : Zone)
    (period : Period) (status : Status) {w : World} (hw : P w) :
    tell react zone period status w = tell react' zone period status w ∧
      ∃ w', R w w' ∧
        (tell react zone period status w = (.ok (), w'.record [.adopted zone period status]) ∨
          ∃ cause, tell react zone period status w = (.error cause, w')) := by
  obtain ⟨heq, hR⟩ := letAct_follows hc hr zone period status hw
  have htell : ∀ r, tell r zone period status w =
      (letAct r zone >>= fun _ => conclude zone period status)
        (w.record [.told zone period status]) := fun _ => rfl
  rw [htell, htell, bind_apply, bind_apply, ← heq]
  refine ⟨rfl, ?_⟩
  rcases hact : letAct react zone (w.record [.told zone period status]) with ⟨cause | _, w₁⟩
  · rw [hact] at hR
    exact ⟨w₁, hR, .inr ⟨cause, rfl⟩⟩
  · rw [hact] at hR
    unfold conclude
    simp only [world_bind]
    rcases (w₁.conduct zone).refusal with _ | cause
    · exact ⟨w₁, hR, .inl rfl⟩
    · exact ⟨w₁.record [.refused zone], hc.trans hR (hc.idle w₁ _ rfl), .inr ⟨cause, rfl⟩⟩

/-- What follows on a zone's adopting a status. -/
theorem remember_apply (zone : Zone) (period : Period) (status : Status) (w : World) :
    (do if (← world).scheduler.schedule.has zone then
          changeScheduler (remember zone status period)
          note (.pushed zone status period) : Act Unit) (w.record [.adopted zone period status]) =
      (.ok (), adopted zone period status w) := by
  unfold adopted
  by_cases hhas : w.scheduler.schedule.has zone
  · simp [hhas, bind_apply, World.record]
  · simp [hhas]

theorem push_follows (hc : Course P R) (hr : Reacts P R react react') (zone : Zone)
    (period : Period) (status : Status) :
    Follows P R (push react zone period status) (push react' zone period status) := by
  refine Follows.look fun w₀ => Follows.ite (fun _ => ?_) fun _ => Follows.pure hc.zoneless ()
  intro w hw
  obtain ⟨heq, w', hR, htold | ⟨cause, htold⟩⟩ := tell_follows hc hr zone period status hw
  · have htold' := heq.symm.trans htold
    rw [bind_of_ok htold, bind_of_ok htold', remember_apply]
    exact ⟨rfl, hc.trans hR (hc.adopt w' zone period status)⟩
  · have htold' := heq.symm.trans htold
    rw [bind_of_error htold, bind_of_error htold']
    exact ⟨rfl, hR⟩

theorem apply_follows (hc : Course P R) (hr : Reacts P R react react') (zone : Zone)
    (table : Table) (now : When) :
    Follows P R (apply react zone table now) (apply react' zone table now) := by
  intro w hw
  unfold apply
  simp only [world_bind]
  by_cases hhas : w.scheduler.schedule.has zone
  · rw [if_pos hhas, if_pos hhas]
    obtain ⟨-, hR⟩ := logged_follows hc.zoneless (table.noteInForce w.surroundings.ahead now) w hw
    rw [bind_apply, bind_apply]
    simp only [logged_apply] at hR ⊢
    rcases (table.noteInForce w.surroundings.ahead now).result with cause | _ | ⟨period, status⟩
    · exact ⟨rfl, hR⟩
    · exact ⟨rfl, hc.trans hR (hc.vacate (w.record _) zone hhas)⟩
    · obtain ⟨heq, hR'⟩ := push_follows hc hr zone period status _ (hc.keeps hw hR)
      exact ⟨heq, hc.trans hR hR'⟩
  · rw [if_neg hhas, if_neg hhas]
    exact Follows.note hc.zoneless rfl w hw

/-! ### What zones have a part in when a table is applied to them -/

/-- Applying a table to a zone comes out the same with both, and follows the relation. -/
def Applies (P : World → Prop) (R : World → World → Prop)
    (react react' : Zone → List Step → Act Unit) : Prop :=
  ∀ zone table now, Follows P R (apply react zone table now) (apply react' zone table now)

theorem Reacts.applies (hc : Course P R) (hr : Reacts P R react react') :
    Applies P R react react' := apply_follows hc hr

theorem visit_follows (hc : Zoneless P R) (ha : Applies P R react react') (now : When)
    (entry : Zone × Copy) : Follows P R (visit react now entry) (visit react' now entry) := by
  refine Follows.look fun w => Follows.ite (fun _ => ?_) fun _ => Follows.note hc rfl
  refine Follows.bind hc (Follows.attempt (ha _ _ _)) fun outcome => ?_
  rcases outcome with cause | _
  · exact Follows.note hc rfl
  · exact Follows.pure hc ()

theorem visitAll_follows (hc : Zoneless P R) (ha : Applies P R react react') (now : When)
    (entries : List (Zone × Copy)) :
    Follows P R (visitAll react now entries) (visitAll react' now entries) := by
  induction entries with
  | nil => exact Follows.pure hc ()
  | cons entry rest ih => exact Follows.bind hc (visit_follows hc ha now entry) fun _ => ih

theorem execute_follows (hc : Zoneless P R) (ha : Applies P R react react')
    (given : Option When) : Follows P R (execute react given) (execute react' given) := by
  refine Follows.bind hc (momentOr_follows hc given) fun now => ?_
  exact Follows.look fun w => visitAll_follows hc ha now _

theorem tick_follows (hc : Zoneless P R) (ha : Applies P R react react') :
    Follows P R (tick react) (tick react') := by
  refine Follows.bind hc (Follows.note hc rfl) fun _ => ?_
  have hrun := Follows.bind hc (refresh_follows hc) fun _ => execute_follows hc ha none
  refine Follows.bind hc (Follows.attempt hrun) fun outcome => ?_
  rcases outcome with cause | _
  · exact Follows.bind hc (Follows.note hc rfl) fun _ => Follows.note hc rfl
  · exact Follows.note hc rfl

/-! ### Making a scheduler -/

theorem begin_follows (hc : Zoneless P R) (schedule : Option (Logged Schedule)) :
    Follows P R (begin schedule) (begin schedule) := by
  rcases schedule with _ | schedule
  · exact Follows.look fun w => Follows.ite (fun _ => Follows.note hc rfl) fun _ =>
      Follows.pure hc ()
  · exact Follows.bind hc (logged_follows hc schedule) (replaceSchedule_follows hc)

/-! ### Steps -/

theorem Follows.answer (hc : Zoneless P R) {β : Type} {x y : Act β} (h : Follows P R x y)
    (f : β → Answer) :
    Follows P R (x >>= fun b => Pure.pure (f b)) (y >>= fun b => Pure.pure (f b)) :=
  Follows.bind hc h fun _ => Follows.pure hc _

/-- Every step that applies no table follows the relation, but those that change how a zone
behaves. -/
theorem perform_zoneless (hc : Zoneless P R) {step : Step} (hstep : step.changesConduct = false)
    (htables : step.appliesTables = false) :
    Follows P R (perform react step) (perform react' step) := by
  have looked : ∀ {f : World → Answer}, Follows P R (world >>= fun w => Pure.pure (f w))
      (world >>= fun w => Pure.pure (f w)) := Follows.still hc fun _ => rfl
  have changed : ∀ {f : Surroundings → Surroundings}, (∀ s, (f s).ahead = s.ahead) →
      (∀ s, (f s).conducts = s.conducts) →
      Follows P R (changeSurroundings f >>= fun _ => Pure.pure Answer.nothing)
        (changeSurroundings f >>= fun _ => Pure.pure Answer.nothing) :=
    fun ha hf => Follows.answer hc (changeSurroundings_follows hc ha hf) _
  cases step with
  | update => exact Follows.answer hc (update_follows hc) _
  | replace schedule =>
    exact Follows.bind hc (logged_follows hc schedule) fun schedule =>
      Follows.answer hc (replaceSchedule_follows hc schedule) _
  | load resolve document =>
    exact Follows.bind hc (logged_follows hc _) fun schedule =>
      Follows.answer hc (replaceSchedule_follows hc schedule) _
  | status zone => exact looked
  | period zone => exact looked
  | schedule => exact looked
  | deviation zone setpoint enabled voting moment =>
    exact Follows.answer hc (deviation_follows hc zone setpoint enabled voting moment) _
  | start => exact Follows.bind hc (start_follows hc) fun _ => looked
  | stop => exact Follows.bind hc (stop_follows hc) fun _ => looked
  | running => exact looked
  | granularity => exact looked
  | setClock clock => exact changed (fun _ => rfl) (fun _ => rfl)
  | writeFile content => exact changed (fun _ => rfl) (fun _ => rfl)
  | deleteFile => exact changed (fun _ => rfl) (fun _ => rfl)
  | release => exact Follows.answer hc (release_follows hc) _
  | calls => exact looked
  | unfit name cause => exact Follows.fail hc cause
  | setRefusal zone refusal => simp [Step.changesConduct] at hstep
  | setHook zone steps times => simp [Step.changesConduct] at hstep
  | _ => simp [Step.appliesTables] at htables

/-- **Every step but those that change how a zone behaves follows the course.** -/
theorem perform_follows (hc : Zoneless P R) (ha : Applies P R react react') {step : Step}
    (hstep : step.changesConduct = false) :
    Follows P R (perform react step) (perform react' step) := by
  rcases htables : step.appliesTables with _ | _
  · exact perform_zoneless hc hstep htables
  · cases step with
    | tick => exact Follows.answer hc (tick_follows hc ha) _
    | execute now => exact Follows.answer hc (execute_follows hc ha now) _
    | apply zone now table =>
      exact Follows.bind hc (tableOr_follows hc zone table) fun table =>
        Follows.answer hc (ha zone table now) _
    | _ => simp [Step.appliesTables] at htables

end Walk

end Scheduler
end ZonePlan
