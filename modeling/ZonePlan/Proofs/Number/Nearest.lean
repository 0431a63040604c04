/-
Rounding to the nearest whole number, with a half going to the even one.

`Rounding.halfEven` works on a quotient of natural numbers.  Here it is compared with what rounding
means of a rational number, of either sign: the result is at most a half away, and it is even if it
is just a half away (`NearestEven`).  Rounding so keeps the order of numbers, and hence has one
result: two numbers can only be rounded past each other at a half, where both results would have to
be even (`NearestEven.le_of_le`).
-/
import Mathlib
import ZonePlan.Number.Double

namespace ZonePlan

/-- A whole number is the nearest one to a number; of two that are equally near, the even one. -/
structure NearestEven (x : ℚ) (n : ℤ) : Prop where
  near : |x - n| ≤ 1 / 2
  even : |x - n| = 1 / 2 → Even n

namespace NearestEven

variable {x y : ℚ} {n k : ℤ}

theorem neg (h : NearestEven x n) : NearestEven (-x) (-n) := by
  have hdistance : |-x - (-n : ℤ)| = |x - n| := by
    rw [← abs_neg]
    congr 1
    push_cast
    ring
  constructor
  · rw [hdistance]
    exact h.near
  · intro hhalf
    rw [hdistance] at hhalf
    exact (h.even hhalf).neg

/-- Rounding keeps the order of numbers. -/
theorem le_of_le (h : NearestEven x n) (h' : NearestEven y k) (hxy : x ≤ y) : n ≤ k := by
  by_contra hlt
  have hsucc : k + 1 ≤ n := by omega
  have hsucc' : (k : ℚ) + 1 ≤ n := by exact_mod_cast hsucc
  obtain ⟨-, hx⟩ := abs_le.1 (abs_sub_comm x n ▸ h.near)
  obtain ⟨-, hy⟩ := abs_le.1 h'.near
  -- Both numbers are the half between the two results.
  have hnx : |x - n| = 1 / 2 := by
    rw [abs_sub_comm, abs_of_nonneg (by linarith)]
    linarith
  have hky : |y - k| = 1 / 2 := by
    rw [abs_of_nonneg (by linarith)]
    linarith
  have hnk : n = k + 1 := by
    have hle : (n : ℚ) ≤ k + 1 := by linarith
    have hle' : n ≤ k + 1 := by exact_mod_cast hle
    omega
  obtain ⟨i, hi⟩ := h.even hnx
  obtain ⟨j, hj⟩ := h'.even hky
  omega

end NearestEven

namespace Rounding

/-- A result that is just a half away is even. -/
theorem halfEven_tie {num den : Nat} (hden : 0 < den)
    (h : 2 * (halfEven num den * den) = 2 * num + den ∨
      2 * num = 2 * (halfEven num den * den) + den) : halfEven num den % 2 = 0 := by
  have hsplit : num / den * den + num % den = num := Nat.div_add_mod' num den
  have hrest := Nat.mod_lt num hden
  simp only [halfEven] at h ⊢
  generalize num / den = whole at *
  generalize num % den = rest at *
  have hmul : (whole + 1) * den = whole * den + den := Nat.succ_mul whole den
  by_cases hbelow : 2 * rest < den
  · rw [if_pos hbelow] at h
    omega
  · rw [if_neg hbelow] at h ⊢
    by_cases habove : den < 2 * rest
    · rw [if_pos habove] at h
      omega
    · rw [if_neg habove]
      omega

/-- A quotient is rounded to the nearest whole number. -/
theorem nearestEven_halfEven (num : Nat) {den : Nat} (hden : 0 < den) :
    NearestEven (num / den) (halfEven num den) := by
  have hpos : (0 : ℚ) < den := by exact_mod_cast hden
  have hdistance : |(num / den : ℚ) - (halfEven num den : ℤ)| =
      |(num : ℚ) - halfEven num den * den| / den := by
    rw [← abs_of_pos hpos, ← abs_div, abs_of_pos hpos, sub_div, mul_div_cancel_right₀ _ hpos.ne']
    rfl
  obtain ⟨hle, hge⟩ := halfEven_near num den hden
  constructor
  · rw [hdistance, div_le_iff₀ hpos, abs_le]
    have hle' : (2 : ℚ) * (halfEven num den * den) ≤ 2 * num + den := by exact_mod_cast hle
    have hge' : (2 : ℚ) * num ≤ 2 * (halfEven num den * den) + den := by exact_mod_cast hge
    constructor
    · linarith
    · linarith
  · intro hhalf
    rw [hdistance, div_eq_iff hpos.ne'] at hhalf
    have htie : 2 * (halfEven num den * den) = 2 * num + den ∨
        2 * num = 2 * (halfEven num den * den) + den := by
      rcases abs_choice ((num : ℚ) - halfEven num den * den) with hsign | hsign
      · rw [hsign] at hhalf
        right
        have : (2 : ℚ) * num = 2 * (halfEven num den * den) + den := by linarith
        exact_mod_cast this
      · rw [hsign] at hhalf
        left
        have : (2 : ℚ) * (halfEven num den * den) = 2 * num + den := by linarith
        exact_mod_cast this
    have heven := Nat.even_iff.2 (halfEven_tie hden htie)
    exact_mod_cast heven

end Rounding

/-- The number that a finite double stands for. -/
def FiniteDouble.toRat (x : FiniteDouble) : ℚ := x.signed / Double.unitsPerOne

end ZonePlan
