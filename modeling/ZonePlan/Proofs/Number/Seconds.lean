/-
Milliseconds divided into seconds.

A number of milliseconds is divided by 1000 as a double, and the fraction of a second that comes
out is scaled as a double and rounded to microseconds.  Of a number of fewer than 53 bits the
division changes less than half a millisecond (`seconds_near`), and what is done to the fraction
changes less than a microsecond (`microsSize_near`).  A number that is not one of full seconds is a
millisecond or more away from the next one, so it never gets there; and full seconds are doubles, so
that nothing is rounded at all (`significant_exact`).  Hence the second is the right one, before 1970
as well.

All this is said of sizes in units, which are whole numbers.  A power of two such as the number of
units of one is far too large to be computed here; it is only split into others.
-/
import ZonePlan.Calendar.When

namespace ZonePlan

open Number (pow2 pow2_add pow2_pos pow2_le_pow2 lt_of_pow2_lt pow2_log2_le)
open Double (unitsPerOne)

/-! ### Rounding to 53 significant bits -/

theorem lostBits_le {units bits : Nat} (h : units < pow2 (53 + bits)) : lostBits units ≤ bits := by
  unfold lostBits
  by_cases hzero : units = 0
  · rw [hzero, Nat.log2_zero]
    omega
  · have hlog := lt_of_pow2_lt (Nat.lt_of_le_of_lt (pow2_log2_le hzero) h)
    omega

/-- Keeping 53 bits changes a quotient by at most half of the last bit that is kept. -/
theorem significant_near {num den bits : Nat} (hden : 0 < den) (h : num / den < pow2 (53 + bits)) :
    2 * (significant num den * den) ≤ 2 * num + den * pow2 bits ∧
      2 * num ≤ 2 * (significant num den * den) + den * pow2 bits := by
  have hlost : den * pow2 (lostBits (num / den)) ≤ den * pow2 bits :=
    Nat.mul_le_mul_left den (pow2_le_pow2 (lostBits_le h))
  have hnear := Rounding.halfEven_near num (den * pow2 (lostBits (num / den)))
    (Nat.mul_pos hden (pow2_pos _))
  have hsplit : significant num den * den =
      Rounding.halfEven num (den * pow2 (lostBits (num / den))) *
        (den * pow2 (lostBits (num / den))) := by
    rw [significant, Nat.mul_assoc, Nat.mul_comm (pow2 _)]
  rw [hsplit]
  omega

/-- A count of at most 53 significant bits is not changed. -/
theorem significant_exact {n den : Nat} (bits : Nat) (hden : 0 < den) (h : n < pow2 53) :
    significant (n * pow2 bits * den) den = n * pow2 bits := by
  have hlost : lostBits (n * pow2 bits) ≤ bits := by
    refine lostBits_le ?_
    rw [pow2_add]
    exact Nat.mul_lt_mul_of_pos_right h (pow2_pos bits)
  have hsplit : pow2 bits = pow2 (bits - lostBits (n * pow2 bits)) *
      pow2 (lostBits (n * pow2 bits)) := by
    rw [← pow2_add, Nat.sub_add_cancel hlost]
  rw [significant, Nat.mul_div_cancel _ hden]
  generalize lostBits (n * pow2 bits) = lost at hsplit ⊢
  rw [hsplit, ← Nat.mul_assoc, Nat.mul_assoc _ (pow2 lost), Nat.mul_comm (pow2 lost),
    Rounding.halfEven_mul_self _ _ (Nat.mul_pos hden (pow2_pos lost))]

namespace Calendar

/-! ### Seconds -/

/-- Of a number of milliseconds of fewer than 53 bits the division changes less than half a
millisecond: the last bit that is kept is at most the 1024th part of a second. -/
theorem seconds_near {n : Nat} (h : n < pow2 52) :
    2048 * (significant (n * unitsPerOne) 1000 * 1000) ≤
        2048 * (n * unitsPerOne) + 1000 * unitsPerOne ∧
      2048 * (n * unitsPerOne) ≤
        2048 * (significant (n * unitsPerOne) 1000 * 1000) + 1000 * unitsPerOne := by
  have hone : unitsPerOne = pow2 1064 * pow2 10 := by rw [unitsPerOne, ← pow2_add]
  have hlimit : n * unitsPerOne / 1000 < pow2 (53 + 1064) := by
    rw [Nat.div_lt_iff_lt_mul (by decide), pow2_add, hone, Nat.mul_left_comm,
      Nat.mul_comm (pow2 53), Nat.mul_assoc]
    refine Nat.mul_lt_mul_of_pos_left ?_ (pow2_pos 1064)
    exact Nat.lt_of_lt_of_le (Nat.mul_lt_mul_of_pos_right h (by decide)) (by decide)
  have hnear := significant_near (by decide) hlimit
  have hten : pow2 10 = 1024 := rfl
  rw [hten] at hone
  omega

theorem microsOfCount_of_seconds {n : Count} {x : FiniteDouble} (h : n.seconds = .finite x)
    (hfirst : -secondsLimit ≤ microsOfSeconds x / (microsPerSecond : Int))
    (hlast : microsOfSeconds x / (microsPerSecond : Int) < secondsLimit) :
    microsOfCount n = .ok (microsOfSeconds x) := by
  unfold microsOfCount
  rw [h]
  exact if_neg (not_or.2 ⟨Int.not_lt.2 hfirst, Int.not_le.2 hlast⟩)

/-- The microseconds of a number of seconds of a size in units, without their sign. -/
def microsSize (units : Nat) : Nat :=
  units / unitsPerOne * microsPerSecond +
    Rounding.halfEven (significant (units % unitsPerOne * microsPerSecond) 1) unitsPerOne

theorem microsOfSeconds_eq (x : FiniteDouble) : microsOfSeconds x =
    if x.negative then -(microsSize x.units : Int) else (microsSize x.units : Int) := by
  unfold microsOfSeconds microsSize
  push_cast
  rfl

/-- The two roundings of a fraction of a second come to three quarters of a microsecond at most. -/
theorem microsSize_near (units : Nat) :
    4 * (microsSize units * unitsPerOne) ≤ 4 * (units * microsPerSecond) + 3 * unitsPerOne ∧
      4 * (units * microsPerSecond) ≤ 4 * (microsSize units * unitsPerOne) + 3 * unitsPerOne := by
  have hone : unitsPerOne = pow2 1041 * pow2 33 := by rw [unitsPerOne, ← pow2_add]
  have hpos : 0 < unitsPerOne := pow2_pos 1074
  have hlast : 2 * pow2 1041 ≤ unitsPerOne := by
    rw [hone, Nat.mul_comm]
    exact Nat.mul_le_mul_left _ (by decide)
  have hsplit : units = units / unitsPerOne * unitsPerOne + units % unitsPerOne :=
    (Nat.div_add_mod' units unitsPerOne).symm
  have hlimit : units % unitsPerOne * microsPerSecond / 1 < pow2 (53 + 1041) := by
    have hmicros : microsPerSecond < pow2 20 := by decide
    rw [Nat.div_one, show 53 + 1041 = 1074 + 20 from rfl, pow2_add]
    exact Nat.mul_lt_mul'' (Nat.mod_lt units hpos) hmicros
  have hscaled := significant_near Nat.one_pos hlimit
  have hrounded := Rounding.halfEven_near
    (significant (units % unitsPerOne * microsPerSecond) 1) unitsPerOne hpos
  have hsize : microsSize units * unitsPerOne = units / unitsPerOne * unitsPerOne * microsPerSecond +
      Rounding.halfEven (significant (units % unitsPerOne * microsPerSecond) 1) unitsPerOne *
        unitsPerOne := by
    rw [microsSize, Nat.add_mul, Nat.mul_right_comm]
  have hunits : units * microsPerSecond = units / unitsPerOne * unitsPerOne * microsPerSecond +
      units % unitsPerOne * microsPerSecond := by
    rw [← Nat.add_mul, ← hsplit]
  rw [hsize, hunits]
  omega

/-- Full seconds have their microseconds exactly. -/
theorem microsSize_mul (seconds : Nat) :
    microsSize (seconds * unitsPerOne) = seconds * microsPerSecond := by
  have hpos : 0 < unitsPerOne := pow2_pos 1074
  have hzero : significant (0 * microsPerSecond) 1 = 0 * unitsPerOne := by
    rw [Nat.zero_mul, Nat.zero_mul]
    exact significant_exact 0 Nat.one_pos (pow2_pos 53)
  rw [microsSize, Nat.mul_div_cancel _ hpos, Nat.mul_mod_left, hzero,
    Rounding.halfEven_mul_self _ _ hpos, Nat.add_zero]

/-- The microseconds of a number of milliseconds lie within half a millisecond of it, and those of
full seconds are exact. -/
theorem microsSize_millis {n : Nat} (h : n < pow2 52) :
    microsSize (significant (n * unitsPerOne) 1000) ≤ 1000 * n + 500 ∧
      1000 * n ≤ microsSize (significant (n * unitsPerOne) 1000) + 500 ∧
      (n % 1000 = 0 → microsSize (significant (n * unitsPerOne) 1000) = 1000 * n) := by
  have hpos : 0 < unitsPerOne := pow2_pos 1074
  obtain ⟨hle, hge⟩ := seconds_near h
  obtain ⟨hle', hge'⟩ := microsSize_near (significant (n * unitsPerOne) 1000)
  have hbound : (1000 * n + 500) * unitsPerOne = 1000 * (n * unitsPerOne) + 500 * unitsPerOne := by
    rw [Nat.add_mul, Nat.mul_assoc]
  have hbound' : (microsSize (significant (n * unitsPerOne) 1000) + 500) * unitsPerOne =
      microsSize (significant (n * unitsPerOne) 1000) * unitsPerOne + 500 * unitsPerOne :=
    Nat.add_mul _ _ _
  unfold microsPerSecond at hle' hge'
  refine ⟨?_, ?_, ?_⟩
  · refine Nat.le_of_mul_le_mul_right ?_ hpos
    omega
  · refine Nat.le_of_mul_le_mul_right ?_ hpos
    rw [Nat.mul_assoc]
    omega
  · intro hfull
    obtain ⟨seconds, rfl⟩ := Nat.dvd_of_mod_eq_zero hfull
    have hexact : significant (1000 * seconds * unitsPerOne) 1000 = seconds * unitsPerOne := by
      rw [Nat.mul_assoc, Nat.mul_comm]
      refine significant_exact 1074 (by decide) (Nat.lt_of_le_of_lt ?_ (Nat.lt_trans h (by decide)))
      omega
    rw [hexact, microsSize_mul, microsPerSecond]
    omega

theorem significant_millis_lt {n : Nat} (h : n < pow2 52) :
    significant (n * unitsPerOne) 1000 < doubleLimit := by
  obtain ⟨hle, -⟩ := seconds_near h
  have hlt : n * unitsPerOne + unitsPerOne ≤ pow2 52 * unitsPerOne := by
    rw [← Nat.succ_mul]
    exact Nat.mul_le_mul_right unitsPerOne h
  have hlimit : pow2 52 * unitsPerOne ≤ doubleLimit := by
    rw [unitsPerOne, ← pow2_add]
    exact pow2_le_pow2 (by decide)
  have hpos : 0 < unitsPerOne := pow2_pos 1074
  omega

/-- The seconds of a number of milliseconds are a double. -/
theorem seconds_whole {millis : Int} (h : millis.natAbs < pow2 52) :
    ∃ x : FiniteDouble, (Count.whole millis).seconds = .finite x ∧
      x.negative = decide (millis < 0) ∧
      x.units = significant (millis.natAbs * unitsPerOne) 1000 := by
  refine ⟨⟨decide (millis < 0), _, fits_significant (significant_millis_lt h)⟩, ?_, rfl, rfl⟩
  rw [Count.seconds, Double.ofRatio, Double.ofUnits, dif_pos (significant_millis_lt h)]

/-- **Dividing a whole number of milliseconds into seconds as a double never leads into another
second**, not even before 1970, if it has fewer than 53 bits. -/
theorem microsOfCount_whole {millis : Int} (h : millis.natAbs < pow2 52) :
    ∃ micros, microsOfCount (.whole millis) = .ok micros ∧
      micros / (microsPerSecond : Int) = millis / 1000 := by
  obtain ⟨x, hseconds, hnegative, hunits⟩ := seconds_whole h
  obtain ⟨hle, hge, hfull⟩ := microsSize_millis h
  have hsecond : microsOfSeconds x / (microsPerSecond : Int) = millis / 1000 := by
    rw [microsOfSeconds_eq, hnegative, hunits, microsPerSecond]
    simp only [decide_eq_true_eq]
    generalize microsSize (significant (millis.natAbs * unitsPerOne) 1000) = size at *
    split
    · omega
    · omega
  have hlimit : (pow2 52 : Int) < secondsLimit := by decide
  exact ⟨microsOfSeconds x, microsOfCount_of_seconds hseconds (by omega) (by omega), hsecond⟩

end Calendar
end ZonePlan
