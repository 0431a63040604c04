/-
What the text of a setpoint says.

The text is written from a whole number of ten-thousandth parts: what is full in front of the point,
the rest behind it, and zeros at its end taken off.  `IsDecimal` says what such a text looks like, and
`denoted` gives it the usual meaning.  The zeros that are taken off weigh nothing
(`ofDigitChars_places`), so that the text denotes just the parts that it is written from, and these
are the setpoint rounded to four places.

That nothing else is rounded, and in which direction, is all that is needed of it: how near the text
is to the setpoint and that it keeps the order of setpoints hold of any number rounded to four places.
-/
import ZonePlan.Proofs.Number.Nearest
import ZonePlan.Setpoint

namespace ZonePlan.Setpoint

open Calendar.Moment (padded)
open Double (unitsPerOne)

/-! ### Decimals -/

/-- A decimal with one place to four: a sign or none, figures that do not begin with a zero unless it
is the only one, a point, and figures that do not end with a zero unless it is the only one.  Zero
has no sign. -/
structure IsDecimal (s : String) (negative : Bool) (whole places : List Char) : Prop where
  text : s.toList = (if negative then ['-'] else []) ++ (whole ++ '.' :: places)
  whole_ne : whole ≠ []
  whole_digits : ∀ c ∈ whole, c.isDigit = true
  whole_zero : whole.head? = some '0' → whole = ['0']
  places_ne : places ≠ []
  places_digits : ∀ c ∈ places, c.isDigit = true
  places_zero : places.getLast? = some '0' → places = ['0']
  places_le : places.length ≤ 4
  sign : ¬(negative = true ∧ whole = ['0'] ∧ places = ['0'])

/-- The number that a decimal denotes. -/
def denoted (s : String) : ℚ :=
  let size := s.toList.dropWhile (· = '-')
  let whole := size.takeWhile (· ≠ '.')
  let places := (size.dropWhile (· ≠ '.')).tail
  (if s.toList.head? = some '-' then -1 else 1) *
    (Nat.ofDigitChars 10 whole 0 + Nat.ofDigitChars 10 places 0 / 10 ^ places.length)

theorem ne_of_isDigit {c d : Char} (h : c.isDigit = true) (hd : d.isDigit = false) : c ≠ d := by
  rintro rfl
  rw [h] at hd
  exact Bool.noConfusion hd

theorem denoted_of_isDecimal {s : String} {negative : Bool} {whole places : List Char}
    (h : IsDecimal s negative whole places) :
    denoted s = (if negative then -1 else 1) *
      (Nat.ofDigitChars 10 whole 0 + Nat.ofDigitChars 10 places 0 / 10 ^ places.length) := by
  obtain ⟨first, rest, hwhole⟩ := List.exists_cons_of_ne_nil h.whole_ne
  have hfirst : first ≠ '-' := ne_of_isDigit (h.whole_digits first (by simp [hwhole])) rfl
  have hpoint : ∀ c ∈ whole, decide (c ≠ '.') = true := fun c hc =>
    decide_eq_true (ne_of_isDigit (h.whole_digits c hc) rfl)
  have hsize : s.toList.dropWhile (· = '-') = whole ++ '.' :: places := by
    rw [h.text]
    cases negative with
    | true => simp [hwhole, hfirst]
    | false => simp [hwhole, hfirst]
  have hsign : s.toList.head? = some '-' ↔ negative = true := by
    rw [h.text]
    cases negative with
    | true => simp
    | false => simp [hwhole, hfirst]
  have htake : (whole ++ '.' :: places).takeWhile (· ≠ '.') = whole := by
    rw [List.takeWhile_append_of_pos hpoint]
    simp
  have hdrop : (whole ++ '.' :: places).dropWhile (· ≠ '.') = '.' :: places := by
    rw [List.dropWhile_append_of_pos hpoint]
    simp
  unfold denoted
  simp only [hsize, htake, hdrop, hsign, List.tail_cons]

/-! ### The figures -/

/-- No number but zero begins with a zero. -/
theorem head?_toDigits {n : Nat} (h : n ≠ 0) : (Nat.toDigits 10 n).head? ≠ some '0' := by
  induction n using Nat.strongRecOn with
  | ind n ih =>
    by_cases hn : n < 10
    · rw [Nat.toDigits_of_lt_base hn]
      simpa using h
    · rw [Nat.toDigits_of_base_le (by decide) (Nat.le_of_not_lt hn),
        List.head?_append_of_ne_nil _ Nat.toDigits_ne_nil]
      exact ih (n / 10) (by omega) (by omega)

theorem length_padded_four {n : Nat} (h : n < 10000) : (padded 4 n).toList.length = 4 := by
  have hlength : (Nat.toDigits 10 n).length ≤ 4 :=
    (Nat.length_toDigits_le_iff (by decide) (by decide)).2 h
  simp only [padded, String.toList_ofList, List.length_append, List.length_replicate]
  omega

theorem ofDigitChars_padded (width n : Nat) :
    Nat.ofDigitChars 10 (padded width n).toList 0 = n := by
  simp [padded, Nat.ofDigitChars_append]

theorem rdropWhile_append_replicate (figures : List Char) : ∃ zeros,
    figures.rdropWhile (· = '0') ++ List.replicate zeros '0' = figures := by
  have hend : figures.rtakeWhile (· = '0') =
      List.replicate (figures.rtakeWhile (· = '0')).length '0' :=
    List.eq_replicate_of_mem fun c hc => by simpa using List.mem_rtakeWhile_imp hc
  refine ⟨(figures.rtakeWhile (· = '0')).length, ?_⟩
  rw [← hend]
  exact List.rdropWhile_append_rtakeWhile ..

theorem places_eq (parts : Nat) {shown : List Char}
    (h : (padded 4 (parts % 10000)).toList.rdropWhile (· = '0') = shown) :
    places parts = if shown = [] then ['0'] else shown := by
  unfold List.rdropWhile at h
  simp only [places, h]
  cases shown with
  | nil => rfl
  | cons c rest => rfl

/-- The places are the four figures of the rest without the zeros at their end, but one of these if
there is nothing else. -/
theorem exists_places (parts : Nat) : ∃ zeros,
    places parts ++ List.replicate zeros '0' = (padded 4 (parts % 10000)).toList ∧
      places parts ≠ [] ∧ ((places parts).getLast? = some '0' → places parts = ['0']) := by
  have hlength := length_padded_four (Nat.mod_lt parts (by decide : 0 < 10000))
  obtain ⟨zeros, hsplit⟩ := rdropWhile_append_replicate (padded 4 (parts % 10000)).toList
  cases hshown : (padded 4 (parts % 10000)).toList.rdropWhile (· = '0') with
  | nil =>
    have hplaces : places parts = ['0'] := places_eq parts hshown
    rw [hshown, List.nil_append] at hsplit
    rw [← hsplit, List.length_replicate] at hlength
    rw [hplaces, ← hsplit, hlength]
    exact ⟨3, rfl, by simp, fun _ => rfl⟩
  | cons c rest =>
    have hplaces : places parts = c :: rest := places_eq parts hshown
    have hlast := List.rdropWhile_last_not (· = '0') (padded 4 (parts % 10000)).toList
      (by rw [hshown]; simp)
    simp only [hshown] at hlast
    rw [hshown] at hsplit
    rw [hplaces]
    refine ⟨zeros, hsplit, by simp, ?_⟩
    intro hzero
    rw [List.getLast?_eq_some_getLast (by simp), Option.some.injEq] at hzero
    simp [hzero] at hlast

/-- What the places of a text are worth: the zeros at the end that are left out weigh nothing. -/
theorem ofDigitChars_places (parts : Nat) :
    (places parts).length ≤ 4 ∧
      Nat.ofDigitChars 10 (places parts) 0 * 10 ^ (4 - (places parts).length) = parts % 10000 := by
  obtain ⟨zeros, hpadded, -, -⟩ := exists_places parts
  have hlength : (places parts).length + zeros = 4 := by
    rw [← length_padded_four (Nat.mod_lt parts (by decide : 0 < 10000)), ← hpadded,
      List.length_append, List.length_replicate]
  have hvalue := ofDigitChars_padded 4 (parts % 10000)
  rw [← hpadded, Nat.ofDigitChars_append, Nat.ofDigitChars_replicate_zero] at hvalue
  have hzeros : 4 - (places parts).length = zeros := by omega
  constructor
  · omega
  · rw [hzeros, Nat.mul_comm]
    exact hvalue

theorem isDigit_padded {width n : Nat} {c : Char} (h : c ∈ (padded width n).toList) :
    c.isDigit = true := by
  simp only [padded, String.toList_ofList, List.mem_append, List.mem_replicate] at h
  rcases h with ⟨-, rfl⟩ | hdigit
  · rfl
  · exact Nat.isDigit_of_mem_toDigits (by decide) (by decide) hdigit

/-! ### The text -/

theorem isDecimal_decimal (negative : Bool) (parts : Nat) :
    IsDecimal (String.ofList (decimal negative parts)) (negative && parts != 0)
      (Nat.toDigits 10 (parts / 10000)) (places parts) := by
  obtain ⟨zeros, hpadded, hne, hzero⟩ := exists_places parts
  obtain ⟨hle, hvalue⟩ := ofDigitChars_places parts
  constructor
  case text =>
    simp only [decimal, String.toList_ofList]
    split <;> rfl
  case whole_ne => exact Nat.toDigits_ne_nil
  case whole_digits =>
    intro c hc
    exact Nat.isDigit_of_mem_toDigits (by decide) (by decide) hc
  case whole_zero =>
    intro hhead
    by_cases hwhole : parts / 10000 = 0
    · rw [hwhole]
      rfl
    · exact absurd hhead (head?_toDigits hwhole)
  case places_ne => exact hne
  case places_digits =>
    intro c hc
    exact isDigit_padded (hpadded ▸ List.mem_append_left _ hc)
  case places_zero => exact hzero
  case places_le => exact hle
  case sign =>
    rintro ⟨hsign, hwhole, hplaces⟩
    have hwhole' : parts / 10000 = 0 := by
      rw [← Nat.ofDigitChars_ten_toDigits (n := parts / 10000), hwhole]
      rfl
    have hplaces' : parts % 10000 = 0 := by
      rw [← hvalue, hplaces]
      rfl
    have hparts : parts ≠ 0 := by simpa using (Bool.and_eq_true_iff.1 hsign).2
    omega

/-- The text denotes the ten-thousandth parts it is written from. -/
theorem denoted_decimal (negative : Bool) (parts : Nat) :
    denoted (String.ofList (decimal negative parts)) =
      ((if negative then -parts else parts : ℤ) : ℚ) / 10000 := by
  obtain ⟨hle, hvalue⟩ := ofDigitChars_places parts
  have hplaces : (Nat.ofDigitChars 10 (places parts) 0 : ℚ) / 10 ^ (places parts).length =
      (parts % 10000 : ℕ) / 10000 := by
    rw [div_eq_div_iff (by positivity) (by norm_num), ← hvalue]
    have hpow : (10000 : ℚ) = 10 ^ (4 - (places parts).length) * 10 ^ (places parts).length := by
      rw [← pow_add, Nat.sub_add_cancel hle]
      norm_num
    rw [hpow]
    push_cast
    ring
  have hsplit : (parts : ℚ) = (parts / 10000 : ℕ) * 10000 + (parts % 10000 : ℕ) := by
    exact_mod_cast (Nat.div_add_mod' parts 10000).symm
  have hsize : ((parts / 10000 : ℕ) : ℚ) + (parts % 10000 : ℕ) / 10000 = parts / 10000 := by
    rw [hsplit]
    ring
  rw [denoted_of_isDecimal (isDecimal_decimal negative parts), Nat.ofDigitChars_ten_toDigits,
    hplaces, hsize]
  cases negative with
  | false => simp
  | true =>
    by_cases hzero : parts = 0
    · simp [hzero]
    · simp [hzero]
      ring

/-- The parts of a setpoint, with its sign. -/
def signedParts (x : FiniteDouble) : ℤ :=
  if x.negative then -(parts x.units : ℤ) else parts x.units

theorem denoted_text (x : FiniteDouble) :
    denoted (text (.finite x)) = (signedParts x : ℚ) / 10000 := denoted_decimal ..

/-- A setpoint that comes to no parts is shown without a sign. -/
theorem text_of_signedParts_zero {x : FiniteDouble} (h : signedParts x = 0) :
    text (.finite x) = "0.0" := by
  have hparts : parts x.units = 0 := by
    unfold signedParts at h
    split at h
    · omega
    · omega
  simp only [text, hparts]
  cases x.negative with
  | false => rfl
  | true => rfl

/-- The parts are the setpoint to four places. -/
theorem nearestEven_signedParts (x : FiniteDouble) :
    NearestEven (x.toRat * 10000) (signedParts x) := by
  have hsize : NearestEven ((x.units : ℚ) / unitsPerOne * 10000) (parts x.units) := by
    have h := Rounding.nearestEven_halfEven (x.units * 10000) (Number.pow2_pos 1074)
    rw [Nat.cast_mul, mul_div_right_comm] at h
    exact h
  unfold signedParts FiniteDouble.toRat FiniteDouble.signed
  cases x.negative with
  | false => exact hsize
  | true =>
    have h := hsize.neg
    rw [← neg_mul, ← neg_div] at h
    simpa only [if_true, Int.cast_neg, Int.cast_natCast] using h

/-- **The text of a setpoint is its value to four places.**  It is a decimal with one place to four,
none of them superfluous, and zero has no sign.  What it denotes is the setpoint rounded to the
nearest ten-thousandth, a half going to the even one; so it is within half of a ten-thousandth, and
of two setpoints the greater is never shown as the lesser. -/
theorem text_of_finite (x : FiniteDouble) :
    (∃ negative whole places, IsDecimal (text (.finite x)) negative whole places) ∧
      text (.finite x) ≠ "-0.0" ∧
      (∃ n : ℤ, NearestEven (x.toRat * 10000) n ∧ denoted (text (.finite x)) = n / 10000) ∧
      |denoted (text (.finite x)) - x.toRat| ≤ 5 / 100000 ∧
      ∀ y : FiniteDouble, x.toRat ≤ y.toRat →
        denoted (text (.finite x)) ≤ denoted (text (.finite y)) := by
  have hdecimal := isDecimal_decimal x.negative (parts x.units)
  have hnear := nearestEven_signedParts x
  refine ⟨⟨_, _, _, hdecimal⟩, ?_, ⟨_, hnear, denoted_text x⟩, ?_, ?_⟩
  · intro hzero
    have hdenoted : (signedParts x : ℚ) / 10000 = 0 := by
      rw [← denoted_text, hzero]
      simp [denoted, Nat.ofDigitChars]
    have hparts : signedParts x = 0 := by simpa using hdenoted
    rw [text_of_signedParts_zero hparts] at hzero
    exact absurd hzero (by decide)
  · have hbound := hnear.near
    have hscale : x.toRat * 10000 - signedParts x =
        -(denoted (text (.finite x)) - x.toRat) * 10000 := by
      rw [denoted_text]
      ring
    rw [hscale, abs_mul, abs_neg] at hbound
    norm_num at hbound ⊢
    linarith
  · intro y hxy
    have hle : signedParts x ≤ signedParts y :=
      hnear.le_of_le (nearestEven_signedParts y) (by linarith)
    rw [denoted_text, denoted_text]
    have hle' : (signedParts x : ℚ) ≤ signedParts y := by exact_mod_cast hle
    linarith

/-- Less than half of the last place below zero: zero is what it comes to. -/
def littleBelow : FiniteDouble := ⟨true, Number.pow2 1059, 1, 1059, (Nat.one_mul _).symm, by decide, by decide⟩

/-- A half above 312 of the last place. -/
def thirtySecond : FiniteDouble := ⟨false, Number.pow2 1069, 1, 1069, (Nat.one_mul _).symm, by decide, by decide⟩

theorem text_of_littleBelow :
    littleBelow.toRat ≤ thirtySecond.toRat ∧ text (.finite littleBelow) = "0.0" ∧
      text (.finite thirtySecond) = "0.0312" ∧ denoted "0.0" ≤ denoted "0.0312" := by
  have hbelow : text (.finite littleBelow) = "0.0" := by decide +kernel
  have habove : text (.finite thirtySecond) = "0.0312" := by decide +kernel
  have hle : littleBelow.toRat ≤ thirtySecond.toRat := by
    unfold FiniteDouble.toRat
    gcongr
    decide +kernel
  have hmono := (text_of_finite littleBelow).2.2.2.2 thirtySecond hle
  rw [hbelow, habove] at hmono
  exact ⟨hle, hbelow, habove, hmono⟩

end ZonePlan.Setpoint
