/-
Zones that leave the scheduler alone.

A zone that is told a status may take steps of its own, and some steps concern only what
surrounds the scheduler: a zone may make another one refuse, or end a call of the updater.  As
long as it takes no others the scheduler is the same when the zone is done (`Besides`).  That it
takes no others is read off the trace, in which each step of a zone is an event of its own; the
trace only grows, so what is asked of a whole run is asked of each part of it
(`KeptAside.split`).
-/
import ZonePlan.Proofs.Scheduler.Copies

namespace ZonePlan

/-- Whether a step concerns only what surrounds the scheduler. -/
def Step.isOutside : Step → Bool
  | .setClock _ | .setRefusal _ _ | .setHook _ _ _ | .writeFile _ | .deleteFile | .release | .calls
  | .unfit _ _ => true
  | _ => false

/-- Whether an event is anything but a zone's acting on the scheduler. -/
def Event.keepsAside : Event → Bool
  | .hooked _ step _ => step.isOutside
  | _ => true

/-- Whether an event is a step of a zone, or a note on the work that one makes. -/
def Event.isDoing : Event → Bool
  | .hooked _ _ _ | .noted (.work _) => true
  | _ => false

namespace Scheduler

open Act

/-- Between one world and a later one no zone acted on the scheduler. -/
def KeptAside (w w' : World) : Prop := ∀ e ∈ since w w', e.keepsAside = true

theorem KeptAside.split {u v w : World} (h : KeptAside u w) (huv : u.trace <+: v.trace)
    (hvw : v.trace <+: w.trace) : KeptAside u v ∧ KeptAside v w := by
  unfold KeptAside at h
  rw [since_trans huv hvw] at h
  exact ⟨fun e he => h e (List.mem_append_left _ he), fun e he => h e (List.mem_append_right _ he)⟩

/-- From one world to the other nothing but the surroundings changed, while such things happened
as zones do. -/
structure Besides (doings : List Event) (w w' : World) : Prop where
  scheduler : w'.scheduler = w.scheduler
  ahead : w'.surroundings.ahead = w.surroundings.ahead
  trace : w'.trace = w.trace ++ doings
  doing : ∀ e ∈ doings, e.isDoing = true

namespace Besides

theorem refl (w : World) : Besides [] w w :=
  ⟨rfl, rfl, (List.append_nil _).symm, fun _ h => absurd h List.not_mem_nil⟩

theorem trans {u v w : World} {first second : List Event} (h : Besides first u v)
    (h' : Besides second v w) : Besides (first ++ second) u w where
  scheduler := h'.scheduler.trans h.scheduler
  ahead := h'.ahead.trans h.ahead
  trace := by rw [h'.trace, h.trace, List.append_assoc]
  doing e he := (List.mem_append.1 he).elim (h.doing e) (h'.doing e)

theorem surroundings (w : World) {s : Surroundings} (h : s.ahead = w.surroundings.ahead) :
    Besides [] w { w with surroundings := s } :=
  ⟨rfl, h, (List.append_nil _).symm, fun _ h => absurd h List.not_mem_nil⟩

theorem record (w : World) {doings : List Event} (h : ∀ e ∈ doings, e.isDoing = true) :
    Besides doings w (w.record doings) := ⟨rfl, rfl, rfl, h⟩

end Besides

/-! ### Steps outside -/

theorem release_besides (w : World) : Besides (lateNotes w) w (released w) where
  scheduler := rfl
  ahead := rfl
  trace := rfl
  doing e he := by
    obtain ⟨n, rfl⟩ := lateNotes_work he
    rfl

theorem take_besides {step : Step} (h : step.isOutside = true) (w : World) :
    ∃ doings, Besides doings w (take step w).2 := by
  rw [take_eq]
  cases step with
  | release =>
    refine ⟨lateNotes w, ?_⟩
    show Besides (lateNotes w) w ((release >>= fun _ => pure Answer.nothing : Act Answer) w).2
    rw [bind_of_ok (release_apply w)]
    exact release_besides w
  | setClock clock => exact ⟨[], .surroundings w rfl⟩
  | setRefusal zone refusal => exact ⟨[], .surroundings w rfl⟩
  | setHook zone steps times => exact ⟨[], .surroundings w rfl⟩
  | writeFile content => exact ⟨[], .surroundings w rfl⟩
  | deleteFile => exact ⟨[], .surroundings w rfl⟩
  | calls => exact ⟨[], .refl w⟩
  | unfit name cause => exact ⟨[], .refl w⟩
  | _ => simp [Step.isOutside] at h

/-! ### What zones leave behind -/

theorem takeSteps_cons (zone : Zone) (step : Step) (rest : List Step) (w : World) :
    takeSteps take zone (step :: rest) w =
      takeSteps take zone rest ((take step w).2.record [.hooked zone step (take step w).1]) := rfl

theorem takeSteps_ok (zone : Zone) (steps : List Step) (w : World) :
    (takeSteps take zone steps w).1 = .ok () := by
  induction steps generalizing w with
  | nil => rfl
  | cons step rest ih =>
    rw [takeSteps_cons]
    exact ih _

theorem takeSteps_besides (zone : Zone) (steps : List Step) {w : World}
    (h : KeptAside w (takeSteps take zone steps w).2) :
    ∃ doings, Besides doings w (takeSteps take zone steps w).2 := by
  induction steps generalizing w with
  | nil => exact ⟨[], .refl w⟩
  | cons step rest ih =>
    rw [takeSteps_cons] at h ⊢
    have htaken := Since.of_moves (take_moves step w)
    have hhooked : Since (take step w).2
        ((take step w).2.record [.hooked zone step (take step w).1]) := .move (.idle _ _ rfl)
    have hrest := Since.of_moves (takeSteps_take_moving zone rest
      ((take step w).2.record [.hooked zone step (take step w).1]))
    obtain ⟨hstep, hrest⟩ := h.split (htaken.trans hhooked).trace hrest.trace
    -- The step is itself an event of the trace, so it is one of those that are allowed.
    have houtside : step.isOutside = true := by
      refine (hstep.split htaken.trace hhooked.trace).2 (.hooked zone step (take step w).1) ?_
      rw [since_of_trace (World.record_trace _ _)]
      exact List.mem_singleton.2 rfl
    obtain ⟨first, hfirst⟩ := take_besides houtside w
    obtain ⟨second, hsecond⟩ := ih hrest
    have hdoing : ∀ e ∈ [Event.hooked zone step (take step w).1], e.isDoing = true := by
      intro e he
      rw [List.mem_singleton.1 he]
      rfl
    exact ⟨_, (hfirst.trans (.record _ hdoing)).trans hsecond⟩

theorem conclude_apply (zone : Zone) (period : Period) (status : Status) (w : World) :
    conclude zone period status w =
      match (w.conduct zone).refusal with
      | some cause => (.error cause, w.record [.refused zone])
      | none => (.ok (), w.record [.adopted zone period status]) := by
  unfold conclude
  rw [world_bind]
  rcases (w.conduct zone).refusal with _ | cause
  · rfl
  · rfl

theorem conclude_since (zone : Zone) (period : Period) (status : Status) (w : World) :
    Since w (conclude zone period status w).2 := by
  rw [conclude_apply]
  rcases (w.conduct zone).refusal with _ | cause
  · exact .of_events rfl rfl rfl rfl
  · exact .of_events rfl rfl rfl rfl

/-- The zone's steps, if it takes any, and then its end. -/
theorem tell_apply (zone : Zone) (period : Period) (status : Status) (w : World) :
    ∃ w₁, tell (takeSteps take) zone period status w = conclude zone period status w₁ ∧
      ((w.conduct zone).times = 0 → w₁ = w.record [.told zone period status]) ∧
      (0 < (w.conduct zone).times →
        w₁ = (takeSteps take zone (w.conduct zone).hook (asked zone period status w)).2) := by
  have htell : tell (takeSteps take) zone period status w =
      (letAct (takeSteps take) zone >>= fun _ => conclude zone period status)
        (w.record [.told zone period status]) := rfl
  by_cases htimes : 0 < (w.conduct zone).times
  · refine ⟨_, ?_, fun h => absurd h (Nat.ne_of_gt htimes), fun _ => rfl⟩
    have hact : letAct (takeSteps take) zone (w.record [.told zone period status]) =
        (.ok (), (takeSteps take zone (w.conduct zone).hook (asked zone period status w)).2) := by
      rw [letAct_of_due (takeSteps take) htimes]
      exact Prod.ext (takeSteps_ok _ _ _) rfl
    rw [htell, bind_of_ok hact]
  · refine ⟨_, ?_, fun _ => rfl, fun h => absurd h htimes⟩
    rw [htell, bind_of_ok (letAct_of_not_due (takeSteps take) htimes)]

/-- A zone that is told a status and does not act on the scheduler leaves the scheduler as it is,
and then adopts the status or refuses it.  One that takes no steps does what it is bound to. -/
theorem tell_besides {zone : Zone} {period : Period} {status : Status} {w : World}
    (h : KeptAside w (tell (takeSteps take) zone period status w).2) :
    ∃ doings w₁, Besides doings (w.record [.told zone period status]) w₁ ∧
      tell (takeSteps take) zone period status w = conclude zone period status w₁ ∧
      ((w.conduct zone).times = 0 → doings = [] ∧ w₁ = w.record [.told zone period status]) := by
  obtain ⟨w₁, htell, hstill, hact⟩ := tell_apply zone period status w
  rw [htell] at h
  rcases Nat.eq_zero_or_pos (w.conduct zone).times with htimes | htimes
  · rw [hstill htimes] at htell
    exact ⟨[], _, .refl _, htell, fun _ => ⟨rfl, rfl⟩⟩
  · have hasked := Since.of_moves (asked_moves zone period status w)
    have hsteps := Since.of_moves (takeSteps_take_moving zone (w.conduct zone).hook
      (asked zone period status w))
    have hw₁ := hact htimes
    rw [← hw₁] at hsteps
    have hconclude := conclude_since zone period status w₁
    have hkept := (h.split (hasked.trans hsteps).trace hconclude.trace).1
    have hkept' := (hkept.split hasked.trace hsteps.trace).2
    rw [hw₁] at hkept'
    obtain ⟨doings, hdoings⟩ := takeSteps_besides zone _ hkept'
    rw [← hw₁] at hdoings
    have hbegun : Besides [] (w.record [.told zone period status]) (asked zone period status w) :=
      .surroundings _ rfl
    exact ⟨_, w₁, hbegun.trans hdoings, htell, fun h => absurd h (Nat.ne_of_gt htimes)⟩

end Scheduler
end ZonePlan
