/-
Double precision numbers as exact counts.

Every finite double is a whole multiple of the smallest positive one, 2⁻¹⁰⁷⁴.  A
finite double is therefore kept as a sign and that multiple, its `units`; what makes
the count a double is that it needs at most 53 significant bits and stays below 2²⁰⁹⁸.
Sums and differences are exact on the counts before they are rounded, two doubles are
numerically equal exactly when their signed counts are, and no statement about them has
to look inside a bit pattern.  The bit pattern itself is computed only for display.
-/
import ZonePlan.Number.Power
import ZonePlan.Number.Rounding

namespace ZonePlan

/-! ### Rounding to 53 significant bits -/

open Number (pow2 pow10 pow2_add pow2_succ pow2_pos pow2_le_pow2 lt_of_pow2_lt lt_pow2_log2
  pow2_log2_le)

/-- A count of units that needs at most 53 significant bits and is below the limit. -/
def FitsDouble (units : Nat) : Prop :=
  ∃ mantissa shift, units = mantissa * pow2 shift ∧ mantissa < pow2 53 ∧ shift ≤ 2045

/-- Counts from here on are beyond the largest finite double. -/
def doubleLimit : Nat := pow2 2098

/-- How many low bits of a count are lost when 53 bits are kept. -/
def lostBits (units : Nat) : Nat := units.log2 - 52

/-- The count nearest to `num / den` among those with at most 53 significant bits. -/
def significant (num den : Nat) : Nat :=
  Rounding.halfEven num (den * pow2 (lostBits (num / den))) * pow2 (lostBits (num / den))

/-- Keeping 53 bits leaves a mantissa of at most 2⁵³, and of at least 2⁵² once bits are lost. -/
theorem significant_mantissa (num den : Nat) :
    ∃ mantissa, significant num den = mantissa * pow2 (lostBits (num / den)) ∧
      mantissa ≤ pow2 53 ∧ (0 < lostBits (num / den) → pow2 52 ≤ mantissa) := by
  refine ⟨_, rfl, ?_, ?_⟩
  · refine Nat.le_trans (Rounding.halfEven_le_succ_div _ _) ?_
    rw [← Nat.div_div_eq_div_mul]
    have hle : (num / den).log2 + 1 ≤ 53 + lostBits (num / den) := by
      unfold lostBits; omega
    have hpow : num / den < pow2 (53 + lostBits (num / den)) :=
      Nat.lt_of_lt_of_le (lt_pow2_log2 _) (pow2_le_pow2 hle)
    rw [pow2_add, Nat.mul_comm] at hpow
    exact Nat.succ_le_of_lt (Nat.div_lt_of_lt_mul hpow)
  · intro hpos
    refine Nat.le_trans ?_ (Rounding.div_le_halfEven _ _)
    rw [← Nat.div_div_eq_div_mul, Nat.le_div_iff_mul_le (pow2_pos _), ← pow2_add]
    have hne : num / den ≠ 0 := by
      intro h
      simp [lostBits, h] at hpos
    have heq : 52 + lostBits (num / den) = (num / den).log2 := by
      unfold lostBits at *; omega
    rw [heq]
    exact pow2_log2_le hne

theorem fits_significant {num den : Nat} (h : significant num den < doubleLimit) :
    FitsDouble (significant num den) := by
  obtain ⟨mantissa, heq, hle, hge⟩ := significant_mantissa num den
  generalize lostBits (num / den) = shift at heq hge
  rw [heq] at h ⊢
  have hshift : ∀ bits, pow2 bits ≤ mantissa * pow2 shift → bits < 2098 :=
    fun bits hb => lt_of_pow2_lt (Nat.lt_of_le_of_lt hb h)
  rcases Nat.lt_or_ge mantissa (pow2 53) with hlt | hge53
  · refine ⟨mantissa, shift, rfl, hlt, ?_⟩
    rcases Nat.eq_zero_or_pos shift with h0 | hpos
    · omega
    · have := hshift (52 + shift) (by
        rw [pow2_add]; exact Nat.mul_le_mul_right _ (hge hpos))
      omega
  · have hm : mantissa = pow2 53 := Nat.le_antisymm hle hge53
    refine ⟨pow2 52, shift + 1, ?_, by decide, ?_⟩
    · rw [hm, pow2_succ 52, Nat.mul_assoc, pow2_succ shift, Nat.mul_comm 2]
    · have := hshift (53 + shift) (Nat.le_of_eq (by rw [hm, ← pow2_add]))
      omega

/-! ### The type -/

/-- A finite double: a sign and a size in units of 2⁻¹⁰⁷⁴.  Zero has both signs. -/
structure FiniteDouble where
  negative : Bool
  units : Nat
  fits : FitsDouble units
deriving DecidableEq

namespace FiniteDouble

theorem fits_zero : FitsDouble 0 := ⟨0, 0, rfl, by decide, by decide⟩

/-- The zero of the given sign. -/
def zero (negative : Bool) : FiniteDouble := ⟨negative, 0, fits_zero⟩

instance : Inhabited FiniteDouble := ⟨zero false⟩

/-- The signed count of units: the number's value, times 2¹⁰⁷⁴. -/
def signed (x : FiniteDouble) : Int := if x.negative then -(x.units : Int) else x.units

/-- Numerical equality: the two zeros are equal. -/
def eqv (x y : FiniteDouble) : Bool := x.signed == y.signed

end FiniteDouble

/-- A double precision number. -/
inductive Double where
  | nan
  | infinite (negative : Bool)
  | finite (value : FiniteDouble)
deriving DecidableEq, Inhabited

namespace Double

/-- The size of one, in units. -/
def unitsPerOne : Nat := pow2 1074

/-- The double nearest to `num / den` units, infinite when that is beyond the largest one. -/
def ofUnits (negative : Bool) (num den : Nat) : Double :=
  if h : significant num den < doubleLimit then
    .finite ⟨negative, significant num den, fits_significant h⟩
  else
    .infinite negative

/-- The double nearest to the fraction `num / den`. -/
def ofRatio (negative : Bool) (num den : Nat) : Double :=
  ofUnits negative (num * unitsPerOne) den

/-- The double nearest to a whole number. -/
def ofInt (n : Int) : Double := ofRatio (n < 0) n.natAbs 1

/-- How many decimal digits a natural number has; zero has one. -/
def decimalLength (n : Nat) : Nat := (Nat.toDigits 10 n).length

/-- The double nearest to `digits * 10 ^ exponent`.  Magnitudes far beyond the range of a
double on either side are settled by the number of digits alone. -/
def ofDecimal (negative : Bool) (digits : Nat) (exponent : Int) : Double :=
  let reach := exponent + decimalLength digits
  if digits = 0 ∨ reach < -400 then .finite (.zero negative)
  else if 400 < reach then .infinite negative
  else match exponent with
    | .ofNat e => ofRatio negative (digits * pow10 e) 1
    | .negSucc e => ofRatio negative digits (pow10 (e + 1))

/-! ### Arithmetic and comparison -/

/-- Numerical equality: no number equals the one that is not a number, and the zeros are equal. -/
def eqv : Double → Double → Bool
  | .finite x, .finite y => x.eqv y
  | .infinite a, .infinite b => a == b
  | _, _ => false

/-- The rounded difference. -/
def sub : Double → Double → Double
  | .nan, _ => .nan
  | _, .nan => .nan
  | .infinite a, .infinite b => if a = b then .nan else .infinite a
  | .infinite a, .finite _ => .infinite a
  | .finite _, .infinite b => .infinite !b
  | .finite x, .finite y =>
    let difference := x.signed - y.signed
    if difference = 0 then .finite (.zero (x.negative && !y.negative))
    else ofUnits (difference < 0) difference.natAbs 1

/-- Whether the number is greater than zero. -/
def isPositive : Double → Bool
  | .nan => false
  | .infinite negative => !negative
  | .finite x => 0 < x.signed

/-- Whether the number lies in the closed range of whole numbers. -/
def within (x : Double) (low high : Int) : Bool :=
  match x with
  | .finite x => low * unitsPerOne ≤ x.signed && x.signed ≤ high * unitsPerOne
  | _ => false

/-- Whether the number is less than a whole number. -/
def isBelow (x : Double) (bound : Int) : Bool :=
  match x with
  | .nan => false
  | .infinite negative => negative
  | .finite x => x.signed < bound * unitsPerOne

/-- Whether the number is greater than a whole number. -/
def isAbove (x : Double) (bound : Int) : Bool :=
  match x with
  | .nan => false
  | .infinite negative => !negative
  | .finite x => bound * unitsPerOne < x.signed

/-- The whole number that this one equals, if it does. -/
def toInt? : Double → Option Int
  | .finite x => if x.signed % unitsPerOne = 0 then some (x.signed / unitsPerOne) else none
  | _ => none

/-! ### The bit pattern -/

/-- The 64 bits of a double in the binary interchange format, as a number; for the double that
is not a number, the pattern with only the top bit of its payload set. -/
def bits : Double → Nat
  | .nan => 0x7ff8 * pow2 48
  | .infinite negative => sign negative + 0x7ff * pow2 52
  | .finite x =>
    sign x.negative +
      if x.units < pow2 52 then x.units
      else lostBits x.units * pow2 52 + x.units / pow2 (lostBits x.units)
where
  sign (negative : Bool) : Nat := if negative then pow2 63 else 0

end Double

end ZonePlan
