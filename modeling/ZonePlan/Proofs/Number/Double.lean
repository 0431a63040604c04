/-
A difference is zero only of equal numbers.

Rounding may lose low bits of a count, but never its highest one, so a count that is not zero is
not rounded to zero.  And the smallest difference that two finite doubles can have is one unit,
which is itself a double: below it there is nothing to lose.
-/
import ZonePlan.Number.Double

namespace ZonePlan

open Number (pow2 pow2_pos pow2_le_pow2 pow2_log2_le)

/-- A fraction of at least one unit keeps its highest bit when it is rounded. -/
theorem significant_pos {num den : Nat} (hden : 0 < den) (h : den ≤ num) :
    0 < significant num den := by
  have hwhole : 0 < num / den := Nat.div_pos h hden
  have hlost : pow2 (lostBits (num / den)) ≤ num / den := by
    have hle : lostBits (num / den) ≤ (num / den).log2 := by
      unfold lostBits
      omega
    exact Nat.le_trans (pow2_le_pow2 hle) (pow2_log2_le (Nat.ne_of_gt hwhole))
  have hkept : 0 < num / (den * pow2 (lostBits (num / den))) := by
    rw [← Nat.div_div_eq_div_mul]
    exact Nat.div_pos hlost (pow2_pos _)
  have hrounded := Nat.lt_of_lt_of_le hkept (Rounding.div_le_halfEven num _)
  exact Nat.mul_pos hrounded (pow2_pos _)

namespace FiniteDouble

theorem signed_eq_zero {x : FiniteDouble} : x.signed = 0 ↔ x.units = 0 := by
  unfold signed
  split
  · omega
  · omega

theorem signed_zero (negative : Bool) : (zero negative).signed = 0 :=
  signed_eq_zero.2 rfl

end FiniteDouble

namespace Double

/-- A count of units that is not zero is not rounded to zero. -/
theorem ofUnits_eqv_zero {num : Nat} (h : num ≠ 0) (negative : Bool) :
    (ofUnits negative num 1).eqv (.finite (.zero false)) = false := by
  have hpos : 0 < significant num 1 := significant_pos Nat.one_pos (Nat.pos_of_ne_zero h)
  unfold ofUnits
  by_cases hlimit : significant num 1 < doubleLimit
  · rw [dif_pos hlimit]
    have hne : (⟨negative, significant num 1, fits_significant hlimit⟩ : FiniteDouble).signed ≠
        0 := fun hzero => Nat.ne_of_gt hpos (FiniteDouble.signed_eq_zero.1 hzero)
    simpa [eqv, FiniteDouble.eqv, FiniteDouble.signed_zero] using hne
  · rw [dif_neg hlimit]
    rfl

/-- **The rounded difference of two finite doubles is zero just if they are equal.** -/
theorem sub_eqv_zero (x y : FiniteDouble) :
    ((Double.finite x).sub (.finite y)).eqv (.finite (.zero false)) = x.eqv y := by
  unfold sub
  by_cases hsame : x.signed - y.signed = 0
  · have heqv : x.eqv y = true := by
      rw [FiniteDouble.eqv, beq_iff_eq]
      exact Int.sub_eq_zero.1 hsame
    simp only [if_pos hsame]
    rw [heqv, eqv, FiniteDouble.eqv, FiniteDouble.signed_zero, FiniteDouble.signed_zero]
    rfl
  · have heqv : x.eqv y = false := by
      rw [FiniteDouble.eqv, beq_eq_false_iff_ne]
      exact fun heq => hsame (Int.sub_eq_zero.2 heq)
    simp only [if_neg hsame]
    rw [heqv]
    exact ofUnits_eqv_zero (Int.natAbs_ne_zero.2 hsame) _

end Double
end ZonePlan
