/-
Periods in the order of their windows.

Periods sort by the start of their windows, and of two that start together the one that ends
later sorts first.  The order looks at windows alone, so that periods of one window are left as
they stand: `SortsByWindow` says when a list is another one put in order in this way, and `sort`
gives such a list.
-/
import ZonePlan.Period.InForce
import ZonePlan.Registry

namespace ZonePlan.Period

/-- Whether two periods have the same window. -/
def sameWindow (p q : Period) : Bool := p.start == q.start && p.finish == q.finish

/-- Periods stand in the order of their windows. -/
def Ordered (periods : List Period) : Prop :=
  periods.Pairwise fun p q => p.start < q.start ∨ p.start = q.start ∧ q.finish ≤ p.finish

/-- One list is the other put in the order of windows, periods of one window being left as they
stand. -/
structure SortsByWindow (periods sorted : List Period) : Prop where
  perm : sorted.Perm periods
  ordered : Ordered sorted
  stable : ∀ p : Period, sorted.filter p.sameWindow = periods.filter p.sameWindow

/-! ### The order -/

theorem precedes_iff {p q : Period} :
    p.precedes q = true ↔ p.start < q.start ∨ p.start = q.start ∧ q.finish < p.finish := by
  simp [precedes]

theorem precedes_eq_false_iff {p q : Period} :
    p.precedes q = false ↔ q.start < p.start ∨ q.start = p.start ∧ p.finish ≤ q.finish := by
  rw [← Bool.not_eq_true, precedes_iff]
  omega

theorem sameWindow_iff {p q : Period} :
    p.sameWindow q = true ↔ p.start = q.start ∧ p.finish = q.finish := by
  simp [sameWindow]

theorem sameWindow_refl (p : Period) : p.sameWindow p = true := sameWindow_iff.2 ⟨rfl, rfl⟩

theorem sameWindow_comm (p q : Period) : p.sameWindow q = q.sameWindow p := by
  rw [Bool.eq_iff_iff, sameWindow_iff, sameWindow_iff]
  exact and_congr eq_comm eq_comm

theorem sameWindow_congr {p q : Period} (h : p.sameWindow q = true) :
    p.sameWindow = q.sameWindow := by
  funext r
  rw [sameWindow_iff] at h
  simp only [sameWindow, h.1, h.2]

/-- Of two periods of different windows one sorts before the other. -/
theorem sameWindow_of_not_precedes {p q : Period} (h : p.precedes q = false)
    (h' : q.precedes p = false) : p.sameWindow q = true := by
  rw [precedes_eq_false_iff] at h h'
  rw [sameWindow_iff]
  omega

/-- Of periods of one window none sorts before another. -/
theorem precedes_eq_false_of_sameWindow {p q : Period} (h : p.sameWindow q = true) :
    p.precedes q = false := by
  rw [sameWindow_iff] at h
  rw [precedes_eq_false_iff]
  omega

/-! ### Sorting -/

theorem notAfter_trans (p q r : Period) (h : (!q.precedes p) = true) (h' : (!r.precedes q) = true) :
    (!r.precedes p) = true := by
  simp only [Bool.not_eq_true', precedes_eq_false_iff] at h h' ⊢
  omega

theorem notAfter_total (p q : Period) : (!q.precedes p || !p.precedes q) = true := by
  simp only [Bool.or_eq_true, Bool.not_eq_true', precedes_eq_false_iff]
  omega

theorem sort_ordered (periods : List Period) : Ordered (sort periods) := by
  refine (List.pairwise_mergeSort notAfter_trans notAfter_total periods).imp ?_
  intro p q h
  rwa [Bool.not_eq_true', precedes_eq_false_iff] at h

/-- **Sorting puts periods in the order of their windows and leaves those of one window as they
stand.** -/
theorem sort_sortsByWindow (periods : List Period) : SortsByWindow periods (sort periods) where
  perm := List.mergeSort_perm periods _
  ordered := sort_ordered periods
  stable p := by
    refine Registry.filter_mergeSort notAfter_trans notAfter_total (fun q r hq hr => ?_) periods
    rw [sameWindow_iff] at hq hr
    rw [Bool.not_eq_true', precedes_eq_false_iff]
    omega

theorem mem_sort {periods : List Period} {p : Period} : p ∈ sort periods ↔ p ∈ periods :=
  (sort_sortsByWindow periods).perm.mem_iff

end ZonePlan.Period
