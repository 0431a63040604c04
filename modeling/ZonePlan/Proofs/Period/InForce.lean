/-
The period in force is the last one that covers the moment, in the order of windows.

The search goes through the periods once and keeps the best one so far.  Here it is compared with
picking those that cover the moment, sorting them, and taking the last.  What links the two is
where the period in force stands among the others (`inForce_split`): no period before it sorts
after it, and every later one sorts before it.  So it is the last of the periods of its window,
which a stable sort leaves as they stand (`inForce_sort`).

That a window laid over a broader one overrides it, and that the order of the periods does not
matter while no two of them have one window, are read off the same split.
-/
import Mathlib.Data.List.Induction
import Mathlib.Data.List.Pairwise
import Mathlib.Data.List.Permutation
import ZonePlan.Proofs.Period.Order

namespace ZonePlan.Period

open Calendar (Moment)

variable {m : Moment} {periods : List Period}

/-! ### Where the period in force stands -/

theorem inForce_append (periods : List Period) (p : Period) (m : Moment) :
    inForce (periods ++ [p]) m = override m (inForce periods m) p := by
  rw [inForce, List.foldl_append]
  rfl

theorem override_of_covers {best : Option Period} {p : Period} (h : p.covers m = true) :
    override m best p = some (best.elim p fun b => if p.precedes b then b else p) := by
  rcases best with _ | b
  · exact if_pos h
  · rw [Option.elim_some, apply_ite some]
    exact if_pos h

theorem override_of_not_covers {best : Option Period} {p : Period} (h : p.covers m = false) :
    override m best p = best := if_neg (Bool.eq_false_iff.1 h)

/-- No period is in force just if none covers the moment. -/
theorem inForce_eq_none_iff : inForce periods m = none ↔ ∀ p ∈ periods, p.covers m = false := by
  induction periods using List.reverseRecOn with
  | nil => simp [inForce]
  | append_singleton earlier p ih =>
    rw [inForce_append, List.forall_mem_append, ← ih]
    rcases hp : p.covers m with _ | _
    · simp [override_of_not_covers hp, hp]
    · simp [override_of_covers hp, hp]

/-- The period in force covers the moment.  Of the others that do, none before it sorts after it,
and all behind it sort before it. -/
theorem inForce_split {b : Period} (h : inForce periods m = some b) :
    ∃ before after, periods = before ++ b :: after ∧ b.covers m = true ∧
      (∀ p ∈ before, p.covers m = true → b.precedes p = false) ∧
      ∀ p ∈ after, p.covers m = true → p.precedes b = true := by
  induction periods using List.reverseRecOn generalizing b with
  | nil => simp [inForce] at h
  | append_singleton earlier p ih =>
    rw [inForce_append] at h
    rcases hp : p.covers m with _ | _
    · rw [override_of_not_covers hp] at h
      obtain ⟨before, after, rfl, hb, hbefore, hafter⟩ := ih h
      refine ⟨before, after ++ [p], by simp, hb, hbefore, ?_⟩
      rw [List.forall_mem_append, List.forall_mem_singleton, hp]
      exact ⟨hafter, fun h => absurd h Bool.false_ne_true⟩
    · rw [override_of_covers hp, Option.some.injEq] at h
      rcases hbest : inForce earlier m with _ | best
      · rw [hbest, Option.elim_none] at h
        subst h
        refine ⟨earlier, [], rfl, hp, ?_, fun _ h => absurd h List.not_mem_nil⟩
        intro q hq hcovers
        rw [inForce_eq_none_iff.1 hbest q hq] at hcovers
        exact absurd hcovers Bool.false_ne_true
      · rw [hbest, Option.elim_some] at h
        obtain ⟨before, after, rfl, hb, hbefore, hafter⟩ := ih hbest
        rcases hprecedes : p.precedes best with _ | _
        · -- The new period takes over from one that is not after it, and so from all others.
          rw [hprecedes, if_neg Bool.false_ne_true] at h
          subst h
          refine ⟨_, [], rfl, hp, ?_, fun _ h => absurd h List.not_mem_nil⟩
          intro q hq hcovers
          have hq' : best.precedes q = false ∨ q.precedes best = true := by
            rcases List.mem_append.1 hq with hq | hq
            · exact .inl (hbefore q hq hcovers)
            · rcases List.mem_cons.1 hq with rfl | hq
              · exact .inl (precedes_eq_false_of_sameWindow (sameWindow_refl q))
              · exact .inr (hafter q hq hcovers)
          rw [precedes_iff, precedes_eq_false_iff] at hq'
          rw [precedes_eq_false_iff] at hprecedes ⊢
          omega
        · rw [hprecedes, if_pos rfl] at h
          subst h
          refine ⟨before, after ++ [p], by simp, hb, hbefore, ?_⟩
          rw [List.forall_mem_append, List.forall_mem_singleton]
          exact ⟨hafter, fun _ => hprecedes⟩

/-- The period in force does not sort before any that covers the moment. -/
theorem not_precedes_of_inForce {b p : Period} (h : inForce periods m = some b) (hp : p ∈ periods)
    (hcovers : p.covers m = true) : b.precedes p = false := by
  obtain ⟨before, after, rfl, -, hbefore, hafter⟩ := inForce_split h
  rcases List.mem_append.1 hp with hp | hp
  · exact hbefore p hp hcovers
  · rcases List.mem_cons.1 hp with rfl | hp
    · exact precedes_eq_false_of_sameWindow (sameWindow_refl p)
    · have hlast := hafter p hp hcovers
      rw [precedes_iff] at hlast
      rw [precedes_eq_false_iff]
      omega

/-- The period in force is the last of its window among those that cover the moment. -/
theorem last_of_inForce {b : Period} (h : inForce periods m = some b) :
    ((periods.filter b.sameWindow).filter fun p => p.covers m).getLast? = some b := by
  obtain ⟨before, after, rfl, hb, -, hafter⟩ := inForce_split h
  have hnone : (after.filter b.sameWindow).filter (fun p => p.covers m) = [] := by
    rw [List.filter_filter, List.filter_eq_nil_iff]
    intro p hp hmatch
    obtain ⟨hcovers, hwindow⟩ := Bool.and_eq_true_iff.1 hmatch
    have hlast := hafter p hp hcovers
    rw [sameWindow_iff] at hwindow
    rw [precedes_iff] at hlast
    omega
  rw [List.filter_append, List.filter_append, List.filter_cons_of_pos (sameWindow_refl b),
    List.filter_cons, if_pos hb, hnone, List.getLast?_concat]

/-! ### The last of those that cover the moment -/

/-- Of the same periods in another order one of the same window is in force.  If that leaves but one
period, it is in force in both. -/
theorem inForce_of_perm {periods' : List Period} (hperm : periods'.Perm periods)
    (honly : ∀ b b', inForce periods m = some b → inForce periods' m = some b' →
      b'.sameWindow b = true → b' = b) : inForce periods' m = inForce periods m := by
  rcases h : inForce periods m with _ | b
  · rw [inForce_eq_none_iff] at h ⊢
    exact fun p hp => h p (hperm.mem_iff.1 hp)
  · obtain ⟨hb, hcovers⟩ := mem_of_inForce h
    rcases h' : inForce periods' m with _ | b'
    · rw [inForce_eq_none_iff.1 h' b (hperm.mem_iff.2 hb)] at hcovers
      exact absurd hcovers Bool.false_ne_true
    · obtain ⟨hb', hcovers'⟩ := mem_of_inForce h'
      rw [honly b b' h h' (sameWindow_of_not_precedes
        (not_precedes_of_inForce h' (hperm.mem_iff.2 hb) hcovers)
        (not_precedes_of_inForce h (hperm.mem_iff.1 hb') hcovers'))]

/-- Sorting the periods does not change which one is in force. -/
theorem inForce_sort (periods : List Period) (m : Moment) :
    inForce (sort periods) m = inForce periods m := by
  have hsorts := sort_sortsByWindow periods
  refine inForce_of_perm hsorts.perm fun b b' h h' hwindow => ?_
  -- Both are the last of their window, and a stable sort has not changed which one that is.
  have hlast := last_of_inForce h'
  rw [sameWindow_congr hwindow, hsorts.stable, last_of_inForce h] at hlast
  exact (Option.some.inj hlast).symm

/-- Periods that do not cover the moment do not matter. -/
theorem inForce_filter (periods : List Period) (m : Moment) :
    inForce (periods.filter fun p => p.covers m) m = inForce periods m := by
  rw [inForce, inForce, List.foldl_filter]
  congr 1
  funext best p
  unfold override
  split <;> rfl

/-- In order, and all covering the moment, the last one is in force. -/
theorem inForce_of_ordered (hordered : Ordered periods)
    (hcovers : ∀ p ∈ periods, p.covers m = true) : inForce periods m = periods.getLast? := by
  induction periods using List.reverseRecOn with
  | nil => rfl
  | append_singleton earlier p ih =>
    rw [List.forall_mem_append, List.forall_mem_singleton] at hcovers
    obtain ⟨hearlier, -, hlast⟩ := List.pairwise_append.1 hordered
    rw [inForce_append, override_of_covers hcovers.2, ih hearlier hcovers.1, List.getLast?_concat]
    rcases hbest : earlier.getLast? with _ | best
    · rfl
    · have hle := hlast best (List.mem_of_getLast? hbest) p List.mem_cons_self
      rw [Option.elim_some, if_neg (by rw [precedes_eq_false_iff.2 hle]; exact Bool.false_ne_true)]

/-- **The period in force is the last of those that cover the moment, in the order of windows.** -/
theorem inForce_eq_getLast? (periods : List Period) (m : Moment) :
    inForce periods m = (sort (periods.filter fun p => p.covers m)).getLast? := by
  rw [← inForce_filter, ← inForce_sort]
  refine inForce_of_ordered (sort_ordered _) ?_
  intro p hp
  exact (List.mem_filter.1 (mem_sort.1 hp)).2

/-! ### Overriding -/

/-- A period is overridden by one that covers the moment and lies within it. -/
theorem window_of_inForce {b p : Period} (h : inForce periods m = some b) (hp : p ∈ periods)
    (hcovers : p.covers m = true) (hstart : b.start ≤ p.start) (hfinish : p.finish ≤ b.finish) :
    p.start = b.start ∧ p.finish = b.finish := by
  have hnot := not_precedes_of_inForce h hp hcovers
  rw [precedes_eq_false_iff] at hnot
  omega

/-- While no two of the periods that cover the moment have one window, their order does not
matter. -/
theorem inForce_perm {periods' : List Period} (hperm : periods'.Perm periods)
    (hwindows : (periods.filter fun p => p.covers m).Pairwise fun p q => p.sameWindow q = false) :
    inForce periods' m = inForce periods m := by
  refine inForce_of_perm hperm fun b b' h h' hwindow => ?_
  obtain ⟨hb, hcovers⟩ := mem_of_inForce h
  obtain ⟨hb', hcovers'⟩ := mem_of_inForce h'
  by_contra hne
  have : Std.Symm fun p q : Period => p.sameWindow q = false :=
    ⟨fun p q hpq => by rwa [sameWindow_comm]⟩
  have hdifferent := hwindows.forall (List.mem_filter.2 ⟨hperm.mem_iff.1 hb', hcovers'⟩)
    (List.mem_filter.2 ⟨hb, hcovers⟩) hne
  rw [hwindow] at hdifferent
  exact Bool.false_ne_true hdifferent.symm

/-! ### What a period looks at

A period looks at the weekday of a moment, and at the full minutes since midnight.
-/

theorem covers_congr {m' : Moment} (hday : m.weekday = m'.weekday) (hminute : m.minute = m'.minute)
    (p : Period) : p.covers m = p.covers m' := by
  unfold covers Moment.timeOfDay
  rw [hday, hminute]

theorem inForce_congr {m' : Moment} (hday : m.weekday = m'.weekday)
    (hminute : m.minute = m'.minute) (periods : List Period) :
    inForce periods m = inForce periods m' := by
  have hstep : override m = override m' := by
    funext best p
    unfold override
    rw [covers_congr hday hminute]
  rw [inForce, hstep, inForce]

/-- To any periods two values are one that stand for moments of one weekday and one minute. -/
theorem inForceAt_congr {m' : Moment} {w w' : When} {ahead : Int} (hw : w.toMoment ahead = .ok m)
    (hw' : w'.toMoment ahead = .ok m') (hday : m.weekday = m'.weekday)
    (hminute : m.minute = m'.minute) (periods : List Period) :
    inForceAt ahead periods w = inForceAt ahead periods w' := by
  simp only [inForceAt, hw, hw', Except.map, inForce_congr hday hminute]

/-! ### Whatever is given for a moment -/

/-- The periods that match what is given for a moment. -/
def matching (ahead : Int) (periods : List Period) (w : When) : List Period :=
  periods.filter fun p => (p.matchesMoment ahead w).toOption == some true

/-- Where each period can be asked whether it matches, a moment is meant that the search looks at.
Without periods nothing is asked, and any moment will do. -/
theorem exists_moment {ahead : Int} {w : When}
    (h : ∀ p ∈ periods, ∃ b, p.matchesMoment ahead w = .ok b) :
    ∃ m, (∀ p ∈ periods, p.matchesMoment ahead w = .ok (p.covers m)) ∧
      ∀ other : List Period, other.Perm periods →
        inForceAt ahead other w = .ok (inForce other m) := by
  rcases periods with _ | ⟨p, rest⟩
  · refine ⟨⟨0, 0, by decide, none⟩, fun p hp => absurd hp List.not_mem_nil, ?_⟩
    intro other hother
    rw [hother.eq_nil]
    rfl
  · obtain ⟨b, hb⟩ := h p List.mem_cons_self
    rcases hw : w.toMoment ahead with cause | m
    · rw [matchesMoment_eq, hw] at hb
      cases hb
    · refine ⟨m, fun q _ => matchesMoment_of_toMoment hw q, fun other hother => ?_⟩
      rw [inForceAt, if_neg, hw]
      · rfl
      · rw [List.isEmpty_iff]
        exact fun hnil => List.cons_ne_nil p rest (hnil ▸ hother).nil_eq.symm

/-- **What is in force is the last of the periods that match, in the order of windows**, and
nothing is in force just when none matches.  So a period is overridden by any other that matches
and lies within its window; and the order of the periods only decides between those of one
window. -/
theorem inForceAt_eq_getLast?_sort {ahead : Int} {w : When}
    (h : ∀ p ∈ periods, ∃ b, p.matchesMoment ahead w = .ok b) :
    SortsByWindow (matching ahead periods w) (sort (matching ahead periods w)) ∧
      inForceAt ahead periods w = .ok (sort (matching ahead periods w)).getLast? ∧
      (inForceAt ahead periods w = .ok none ↔
        ∀ p ∈ periods, p.matchesMoment ahead w = .ok false) ∧
      (∀ p, inForceAt ahead periods w = .ok (some p) →
        ∀ q ∈ periods, q.matchesMoment ahead w = .ok true → p.start ≤ q.start →
          q.finish ≤ p.finish → q.start = p.start ∧ q.finish = p.finish) ∧
      ((matching ahead periods w).Pairwise (fun p q => ¬(p.start = q.start ∧ p.finish = q.finish)) →
        ∀ other : List Period, other.Perm periods →
          inForceAt ahead other w = inForceAt ahead periods w) := by
  obtain ⟨m, hmatch, hforce⟩ := exists_moment h
  have hmatching : matching ahead periods w = periods.filter fun p => p.covers m := by
    refine List.filter_congr fun p hp => ?_
    rw [hmatch p hp]
    cases p.covers m <;> rfl
  rw [hforce periods (.refl _), hmatching]
  refine ⟨sort_sortsByWindow _, ?_, ?_, ?_, ?_⟩
  · rw [inForce_eq_getLast?]
  · rw [Except.ok.injEq, inForce_eq_none_iff]
    refine forall₂_congr fun p hp => ?_
    rw [hmatch p hp, Except.ok.injEq]
  · intro p hp q hq hcovers
    rw [hmatch q hq, Except.ok.injEq] at hcovers
    exact window_of_inForce (Except.ok.inj hp) hq hcovers
  · intro hwindows other hother
    rw [hforce other hother]
    refine congrArg _ (inForce_perm hother (hwindows.imp fun hne => ?_))
    rwa [← Bool.not_eq_true, sameWindow_iff]

/-! ### A lunch break

Periods for statements about a search in particular.
-/

namespace Lunch

/-- A period between two full hours of every day. -/
def hours (name : Text) (start finish : Nat) (hname : name ≠ "") (h : start < finish)
    (h' : finish ≤ 24) : Period where
  name := name
  start := start * 3600000
  finish := finish * 3600000
  days := everyDay
  name_ne := hname
  start_add_le := by unfold millisPerMinute; omega
  finish_le := by unfold millisPerDay; omega
  days_lt := by unfold everyDay; omega

def opening : Period := hours "opening" 6 22 (by decide) (by decide) (by decide)

def lunch : Period := hours "lunch" 12 13 (by decide) (by decide) (by decide)

def siesta : Period := hours "siesta" 12 13 (by decide) (by decide) (by decide)

/-- The middle of lunch. -/
def halfPast : Moment := ⟨0, (12 * 60 + 30) * Calendar.microsPerMinute, by decide, none⟩

end Lunch

/-- In the middle of lunch it overrides the opening hours, and of the two periods of its window the
one that comes last is in force. -/
theorem inForceAt_lunch :
    inForceAt 0 [Lunch.lunch, Lunch.siesta, Lunch.opening] (.moment Lunch.halfPast) =
      .ok (some Lunch.siesta) := by
  have hmatching : matching 0 [Lunch.lunch, Lunch.siesta, Lunch.opening] (.moment Lunch.halfPast) =
      [Lunch.lunch, Lunch.siesta, Lunch.opening] := by decide
  have hsort : sort [Lunch.lunch, Lunch.siesta, Lunch.opening] =
      [Lunch.opening, Lunch.lunch, Lunch.siesta] := by cbv
  have hmatch : ∀ p ∈ [Lunch.lunch, Lunch.siesta, Lunch.opening],
      ∃ b, p.matchesMoment 0 (.moment Lunch.halfPast) = .ok b :=
    fun p _ => ⟨p.covers Lunch.halfPast, matchesMoment_of_toMoment rfl p⟩
  obtain ⟨-, hlast, -⟩ := inForceAt_eq_getLast?_sort hmatch
  rw [hlast, hmatching, hsort]
  rfl

end ZonePlan.Period
