/-
Powers of two and of ten.

The size of a double is told by a power of two, the place of a decimal digit by a power of
ten.  What is needed of them is that they multiply as their exponents add, and grow with
their exponents.
-/
namespace ZonePlan.Number

/-- Two to a power. -/
def pow2 (k : Nat) : Nat := Nat.pow 2 k

/-- Ten to a power. -/
def pow10 (k : Nat) : Nat := Nat.pow 10 k

theorem pow2_add (j k : Nat) : pow2 (j + k) = pow2 j * pow2 k := Nat.pow_add 2 j k

theorem pow2_succ (k : Nat) : pow2 (k + 1) = pow2 k * 2 := rfl

theorem pow2_pos (k : Nat) : 0 < pow2 k := Nat.two_pow_pos k

theorem pow2_le_pow2 {j k : Nat} (h : j ≤ k) : pow2 j ≤ pow2 k :=
  Nat.pow_le_pow_right (by omega) h

theorem lt_of_pow2_lt {j k : Nat} (h : pow2 j < pow2 k) : j < k :=
  (Nat.pow_lt_pow_iff_right Nat.one_lt_two).1 h

/-- A number lies below the power of two behind its binary logarithm. -/
theorem lt_pow2_log2 (n : Nat) : n < pow2 (n.log2 + 1) := Nat.lt_log2_self

/-- A positive number is at least the power of two at its binary logarithm. -/
theorem pow2_log2_le {n : Nat} (h : n ≠ 0) : pow2 n.log2 ≤ n := Nat.log2_self_le h

end ZonePlan.Number
