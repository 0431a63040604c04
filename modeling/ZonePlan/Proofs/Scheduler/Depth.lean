/-
The depth of steps always suffices.

`take` lets steps lead to further steps no deeper than the budget of the world before the
first of them, and a zone that is due below that depth is passed over.  Here it is shown that
this never happens: `take_eq` says that a step is taken with zones taking their own steps in
just the same way, without any bound.

The measure is the budget.  A zone that is asked for its steps gives up one of its times, and
with it what those steps could have added to the budget again; so the budget is lower by one
before the first of them, counting in what all of them may add.
-/
import ZonePlan.Proofs.Scheduler.Course

namespace ZonePlan

/-! ### What the conducts of zones weigh -/

namespace Conduct

/-- The weights of conducts together. -/
def weights (entries : List (Zone × Conduct)) : Nat :=
  entries.foldr (fun e total => e.2.weight + total) 0

theorem weights_append (entries : List (Zone × Conduct)) (zone : Zone) (c : Conduct) :
    weights (entries ++ [(zone, c)]) = weights entries + c.weight := by
  induction entries with
  | nil => simp [weights]
  | cons e rest ih =>
    simp only [weights, List.cons_append, List.foldr_cons] at ih ⊢
    omega

/-- A replaced conduct counts in place of the one before. -/
theorem weights_replaceIn {entries : List (Zone × Conduct)} (hnodup : (entries.map (·.1)).Nodup)
    {zone : Zone} {old : Conduct} (hold : (zone, old) ∈ entries) (c : Conduct) :
    weights (Registry.replaceIn zone c entries) + old.weight = weights entries + c.weight := by
  induction entries with
  | nil => exact absurd hold List.not_mem_nil
  | cons e rest ih =>
    rw [List.map_cons, List.nodup_cons] at hnodup
    simp only [Registry.replaceIn, weights, List.map_cons, List.foldr_cons] at ih ⊢
    rcases List.mem_cons.1 hold with rfl | hrest
    · have hsame : rest.map (fun e => if e.1 = zone then (e.1, c) else e) = rest.map id := by
        refine List.map_congr_left fun e he => if_neg fun h : e.1 = zone => hnodup.1 ?_
        exact List.mem_map.2 ⟨e, he, h⟩
      rw [hsame, List.map_id, if_pos rfl]
      dsimp only
      omega
    · have hne : ¬e.1 = zone := fun h => hnodup.1 (h ▸ List.mem_map_of_mem hrest)
      have := ih hnodup.2 hrest
      rw [if_neg hne]
      omega

theorem weights_insert (r : Registry Zone Conduct) (zone : Zone) (c : Conduct) :
    weights (r.insert zone c).entries + ((r.get? zone).getD plain).weight =
      weights r.entries + c.weight := by
  unfold Registry.insert
  split
  · rename_i hhas
    have hnone : r.get? zone = none := Registry.get?_eq_none_iff.2 (Registry.has_eq_false.1 hhas)
    rw [hnone, weights_append]
    simp [plain, weight]
  · rename_i hhas
    have hsome : (r.get? zone).isSome := by
      rw [← Registry.has_eq_isSome]
      simpa using hhas
    obtain ⟨old, hold⟩ := Option.isSome_iff_exists.1 hsome
    rw [hold]
    exact weights_replaceIn r.nodup (Registry.get?_eq_some_iff.1 hold) c

end Conduct

namespace Scheduler

open Act

theorem budget_changeConduct (zone : Zone) (f : Conduct → Conduct) (w : World) :
    (changeConduct zone f w).2.budget + (w.conduct zone).weight =
      w.budget + (f (w.conduct zone)).weight :=
  Conduct.weights_insert w.surroundings.conducts zone (f (w.conduct zone))

/-- Being asked for its steps costs a zone one more than these can add. -/
theorem budget_asked {w : World} {zone : Zone} (h : 0 < (w.conduct zone).times)
    (period : Period) (status : Status) :
    (asked zone period status w).budget + Step.totalWeight (w.conduct zone).hook + 1 =
      w.budget := by
  rcases hget : w.surroundings.conducts.get? zone with _ | c
  · rw [World.conduct, hget] at h
    exact absurd h (Nat.lt_irrefl 0)
  · have hconduct : w.conduct zone = c := by rw [World.conduct, hget, Option.getD_some]
    rw [hconduct] at h ⊢
    have hweights := Conduct.weights_insert w.surroundings.conducts zone
      { c with times := c.times - 1 }
    have hasked : (asked zone period status w).budget = Conduct.weights
        (w.surroundings.conducts.insert zone { c with times := c.times - 1 }).entries := by
      simp only [World.budget, asked, useHook, hget, Conduct.weights]
    have htimes : c.times * (1 + Step.totalWeight c.hook) =
        (c.times - 1) * (1 + Step.totalWeight c.hook) + (1 + Step.totalWeight c.hook) := by
      rw [← Nat.succ_mul, Nat.succ_eq_add_one, Nat.sub_add_cancel h]
    rw [hget, Option.getD_some] at hweights
    have hbudget : w.budget = Conduct.weights w.surroundings.conducts.entries := rfl
    simp only [Conduct.weight] at hweights
    omega

/-! ### The budget never grows but by what a step weighs -/

theorem budget_course (bound : Nat) :
    Course (fun w => w.budget ≤ bound) (fun w w' => w'.budget ≤ w.budget) where
  refl w := Nat.le_refl _
  trans h h' := Nat.le_trans h' h
  keeps h h' := Nat.le_trans h' h
  idle w e _ := Nat.le_refl _
  outside w s _ hs := by simp only [World.budget, hs, Nat.le_refl]
  control w running lastCall hasWorker := Nat.le_refl _
  install w schedule := Nat.le_refl _
  vacate w zone _ := Nat.le_refl _
  adopt w zone period status := by
    unfold adopted
    split
    · exact Nat.le_refl _
    · exact Nat.le_refl _

/-- Two ways in which zones act that are the same below a bound. -/
def Agree (bound : Nat) (react react' : Zone → List Step → Act Unit) : Prop :=
  ∀ zone steps w, w.budget + Step.totalWeight steps < bound →
    react zone steps w = react' zone steps w ∧
      (react zone steps w).2.budget ≤ w.budget + Step.totalWeight steps

theorem Agree.reacts {bound : Nat} {react react' : Zone → List Step → Act Unit}
    (h : Agree bound react react') :
    Reacts (fun w => w.budget ≤ bound) (fun w w' => w'.budget ≤ w.budget) react react' := by
  intro zone period status w hw htimes
  have hasked := budget_asked htimes period status
  obtain ⟨heq, hle⟩ := h zone (w.conduct zone).hook (asked zone period status w) (by omega)
  exact ⟨heq, by omega⟩

theorem perform_agree {bound : Nat} {react react' : Zone → List Step → Act Unit}
    (h : Agree bound react react') (step : Step) {w : World} (hw : w.budget ≤ bound) :
    perform react step w = perform react' step w ∧
      (perform react step w).2.budget ≤ w.budget + step.weight := by
  rcases hstep : step.changesConduct with _ | _
  · obtain ⟨heq, hle⟩ := perform_follows (budget_course bound).zoneless
      (h.reacts.applies (budget_course bound)) hstep w hw
    exact ⟨heq, Nat.le_trans hle (Nat.le_add_right _ _)⟩
  · cases step with
    | setRefusal zone refusal =>
      have hbudget := budget_changeConduct zone (fun c => { c with refusal }) w
      refine ⟨rfl, ?_⟩
      show (changeConduct zone (fun c => { c with refusal }) w).2.budget ≤ _
      simp only [Conduct.weight] at hbudget
      omega
    | setHook zone steps times =>
      have hbudget := budget_changeConduct zone (fun c => { c with hook := steps, times }) w
      refine ⟨rfl, ?_⟩
      show (changeConduct zone (fun c => { c with hook := steps, times }) w).2.budget ≤ _
      simp only [Conduct.weight, Step.weight] at hbudget ⊢
      omega
    | _ => simp [Step.changesConduct] at hstep

/-! ### Depth -/

theorem takeSteps_agree {bound : Nat} {take take' : Step → Act Answer}
    (h : ∀ step w, w.budget < bound →
      take step w = take' step w ∧ (take step w).2.budget ≤ w.budget + step.weight) :
    Agree bound (takeSteps take) (takeSteps take') := by
  intro zone steps
  induction steps with
  | nil => exact fun w _ => ⟨rfl, Nat.le_refl _⟩
  | cons step rest ih =>
    intro w hw
    rw [Step.totalWeight] at hw ⊢
    obtain ⟨heq, hle⟩ := h step w (by omega)
    have hcons : ∀ t : Step → Act Answer, takeSteps t zone (step :: rest) w =
        takeSteps t zone rest ((t step w).2.record [.hooked zone step (t step w).1]) :=
      fun _ => rfl
    have hrecord : ((take step w).2.record [.hooked zone step (take step w).1]).budget =
        (take step w).2.budget := rfl
    obtain ⟨heq', hle'⟩ := ih ((take step w).2.record [.hooked zone step (take step w).1])
      (by omega)
    rw [hcons, hcons, ← heq, ← heq']
    exact ⟨rfl, by omega⟩

theorem performTo_succ (depth : Nat) : ∀ step w, w.budget ≤ depth →
    performTo depth step w = performTo (depth + 1) step w ∧
      (performTo depth step w).2.budget ≤ w.budget + step.weight := by
  induction depth with
  | zero =>
    intro step w hw
    exact perform_agree (fun _ _ _ h => absurd h (Nat.not_lt_zero _)) step hw
  | succ depth ih =>
    intro step w hw
    exact perform_agree (takeSteps_agree fun step w h => ih step w (Nat.le_of_lt_succ h)) step hw

/-- Any depth from the budget on gives the same. -/
theorem take_eq_performTo {depth : Nat} {w : World} (h : w.budget ≤ depth) (step : Step) :
    take step w = performTo depth step w := by
  show performTo w.budget step w = performTo depth step w
  obtain ⟨more, rfl⟩ := Nat.exists_eq_add_of_le h
  induction more with
  | zero => rfl
  | succ more ih =>
    -- One level more changes nothing as long as the budget is not above the depth.
    have hsucc := performTo_succ (w.budget + more) step w (Nat.le_add_right _ _)
    rw [ih (Nat.le_add_right _ _), hsucc.1]
    rfl

/-- **A step is taken with zones taking theirs in the same way.** -/
theorem take_eq : take = perform (takeSteps take) := by
  funext step w
  have hagree : Agree (w.budget + 1) (takeSteps (performTo w.budget)) (takeSteps take) := by
    refine takeSteps_agree fun step w' h => ?_
    have hle : w'.budget ≤ w.budget := Nat.le_of_lt_succ h
    exact ⟨(take_eq_performTo hle step).symm, (performTo_succ _ step w' hle).2⟩
  rw [take_eq_performTo (Nat.le_succ w.budget) step]
  exact (perform_agree hagree step (Nat.le_succ _)).1

end Scheduler
end ZonePlan
