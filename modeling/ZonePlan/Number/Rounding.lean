/-
Rounding a quotient of natural numbers to the nearest whole number.

A half goes to the even neighbour.  Everything in the library that loses digits
(reading a decimal, dividing milliseconds into seconds, writing a setpoint to four
places) rounds through `halfEven`, so what is said here about the distance to the
exact quotient and about ties holds for all of them.
-/
namespace ZonePlan.Rounding

/-- The whole number nearest to `num / den`; of two equally near ones, the even one. -/
def halfEven (num den : Nat) : Nat :=
  let whole := num / den
  let rest := num % den
  if 2 * rest < den then whole
  else if den < 2 * rest then whole + 1
  else whole + whole % 2

theorem div_le_halfEven (num den : Nat) : num / den ≤ halfEven num den := by
  simp only [halfEven]
  split
  · exact Nat.le_refl _
  · split <;> omega

theorem halfEven_le_succ_div (num den : Nat) : halfEven num den ≤ num / den + 1 := by
  have := Nat.mod_lt (num / den) (show 0 < 2 by omega)
  simp only [halfEven]
  split
  · omega
  · split <;> omega

/-- The result lies within half a unit of the exact quotient. -/
theorem halfEven_near (num den : Nat) (hden : 0 < den) :
    2 * (halfEven num den * den) ≤ 2 * num + den ∧
      2 * num ≤ 2 * (halfEven num den * den) + den := by
  have hsplit : num / den * den + num % den = num := Nat.div_add_mod' num den
  have hrest := Nat.mod_lt num hden
  have hpar := Nat.mod_two_eq_zero_or_one (num / den)
  simp only [halfEven]
  generalize num / den = whole at *
  generalize num % den = rest at *
  have hmul : (whole + 1) * den = whole * den + den := Nat.succ_mul whole den
  split
  · omega
  · split
    · omega
    · rcases hpar with h | h <;> simp only [h, Nat.add_zero] <;> omega

/-- A quotient that comes out even is not changed. -/
theorem halfEven_mul_self (n den : Nat) (hden : 0 < den) : halfEven (n * den) den = n := by
  simp [halfEven, Nat.mul_div_cancel n hden, hden]

end ZonePlan.Rounding
