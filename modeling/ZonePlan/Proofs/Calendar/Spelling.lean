/-
The spellings of a time of day, and that each of them is read.

`Spells` lists the ways to write a time of day: with a colon or without, on a dial of twelve hours,
or behind a date.  Each of them is written in one of the formats (`clock?_of_spells`); since no text
is written in two, nothing else has to be said about the other formats.

A spelling is made of numerals with leading zeros, so most of this module says how a numeral is read
by the readers of hours, days and so on: that the preferred way takes both figures of a numeral that
has two (`head?_tens_padded`), and the single figure of one that has a colon behind it.
-/
import ZonePlan.Calendar.Moment
import ZonePlan.Proofs.Calendar.Date
import ZonePlan.Proofs.Calendar.TimeFormat

namespace ZonePlan.Calendar

open Moment (padded)

/-! ### Spellings -/

/-- An hour and a minute with a colon between them. -/
def clockSpelling (width hour minute : Nat) : String := padded width hour ++ ":" ++ padded 2 minute

/-- A month and a day. -/
def Date.daySpelling (date : Date) : String := padded 2 date.month ++ "-" ++ padded 2 date.day

/-- The texts that write an hour and a minute, without blanks around them. -/
inductive Spells (hour minute : Nat) : String → Prop where
  /-- The hour with one figure or with two, if it is below ten. -/
  | separated {width : Nat} (hwidth : width = 1 ∨ width = 2) :
    Spells hour minute (clockSpelling width hour minute)
  | compact : Spells hour minute (padded 2 hour ++ padded 2 minute)
  /-- On a dial both 0 and 12 are shown where a half of the day starts. -/
  | dial {width shown : Nat} {gap half : String} (hwidth : width = 1 ∨ width = 2)
    (hshown : shown ≤ 12) (hhour : shown % 12 = hour % 12) (hgap : gap = "" ∨ gap = " ")
    (hhalf : half.toLower = if hour < 12 then "am" else "pm") :
    Spells hour minute (clockSpelling width shown minute ++ gap ++ half)
  | longDated {date : Date} (hdate : date.isValid) (hfirst : 1 ≤ date.year)
    (hlast : date.year ≤ 9999) : Spells hour minute (padded 4 date.year.toNat ++ "-" ++
      date.daySpelling ++ "T" ++ clockSpelling 2 hour minute)
  /-- Two figures of a year stand for one of the hundred years from 1969 on. -/
  | shortDated {date : Date} (hdate : date.isValid) (hfirst : 1969 ≤ date.year)
    (hlast : date.year ≤ 2068) : Spells hour minute (padded 2 (date.year.toNat % 100) ++ "-" ++
      date.daySpelling ++ "T" ++ clockSpelling 2 hour minute)

/-! ### Numerals -/

theorem toList_padded_one {n : Nat} (h : n < 10) : (padded 1 n).toList = [n.digitChar] := by
  rw [padded, Nat.toDigits_of_lt_base h, String.toList_ofList]
  rfl

/-- The last figure of a numeral is its rest by ten, and what stands before it is the numeral of its
tenth. -/
theorem toList_padded_succ {width : Nat} (hwidth : 1 ≤ width) (n : Nat) :
    (padded (width + 1) n).toList = (padded width (n / 10)).toList ++ [(n % 10).digitChar] := by
  simp only [padded, String.toList_ofList]
  by_cases hn : n < 10
  · rw [Nat.toDigits_of_lt_base hn, Nat.div_eq_of_lt hn, Nat.mod_eq_of_lt hn,
      Nat.toDigits_of_lt_base (by decide : 0 < 10)]
    obtain ⟨before, rfl⟩ := Nat.exists_eq_add_of_le' hwidth
    show List.replicate (before + 1) '0' ++ _ = List.replicate before '0' ++ ['0'] ++ _
    rw [List.replicate_succ']
  · rw [Nat.toDigits_of_base_le (by decide) (Nat.le_of_not_lt hn), List.length_append,
      List.length_singleton, Nat.add_sub_add_right, List.append_assoc]

theorem toList_padded_two {n : Nat} (h : n < 100) :
    (padded 2 n).toList = [(n / 10).digitChar, (n % 10).digitChar] := by
  rw [toList_padded_succ (by decide), toList_padded_one (by omega)]
  rfl

theorem toList_padded_four (n : Nat) :
    (padded 4 n).toList = (padded 2 (n / 100)).toList ++ (padded 2 (n % 100)).toList := by
  have htens : n / 10 % 10 = n % 100 / 10 := by omega
  have hones : n % 10 = n % 100 % 10 := by omega
  rw [toList_padded_succ (by decide), toList_padded_succ (by decide), Nat.div_div_eq_div_mul,
    toList_padded_two (by omega : n % 100 < 100), List.append_assoc, htens, hones]
  rfl

/-- A numeral of one figure or of two is written with one figure if it is below ten and may be. -/
theorem toList_padded_cases {width : Nat} (hwidth : width = 1 ∨ width = 2) (n : Nat) :
    n < 10 ∧ (padded width n).toList = [n.digitChar] ∨ padded width n = padded 2 n := by
  rcases hwidth with rfl | rfl
  · by_cases h : n < 10
    · exact .inl ⟨h, toList_padded_one h⟩
    · have hlength : 2 ≤ (Nat.toDigits 10 n).length := by
        rw [Nat.toDigits_of_base_le (by decide) (Nat.le_of_not_lt h), List.length_append]
        exact Nat.succ_le_succ Nat.length_toDigits_pos
      refine .inr ?_
      simp only [padded]
      rw [Nat.sub_eq_zero_of_le hlength, Nat.sub_eq_zero_of_le (Nat.le_of_succ_le hlength)]
  · exact .inr rfl

/-! ### Numerals that are read -/

namespace Reader

theorem head?_digit {d : Nat} (hd : d < 10) (rest : List Char) :
    (digit (d.digitChar :: rest)).head? = some (d, rest) := by
  rw [digit_digitChar hd]
  rfl

theorem head?_digitIn {d low high : Nat} (hd : d < 10) (h : low ≤ d ∧ d ≤ high) (rest : List Char) :
    (digitIn low high (d.digitChar :: rest)).head? = some (d, rest) := by
  rw [digitIn_digitChar hd, if_pos h]
  rfl

section

variable {n : Nat} {first second : Reader Nat}

/-- A numeral of two figures is read by readers of its figures. -/
theorem head?_tens_padded (h : n < 100)
    (hfirst : ∀ rest, (first ((n / 10).digitChar :: rest)).head? = some (n / 10, rest))
    (hsecond : ∀ rest, (second ((n % 10).digitChar :: rest)).head? = some (n % 10, rest))
    (rest : List Char) : (tens first second ((padded 2 n).toList ++ rest)).head? = some (n, rest) := by
  rw [toList_padded_two h]
  refine (head?_tens (hfirst _) (hsecond rest)).trans ?_
  rw [Nat.div_add_mod]

/-- The preferred way takes a numeral whose first figure is in its range. -/
theorem head?_or_padded {low high : Nat} {other : Reader Nat} (h : n < 100)
    (hrange : low ≤ n / 10 ∧ n / 10 ≤ high)
    (hsecond : ∀ rest, (second ((n % 10).digitChar :: rest)).head? = some (n % 10, rest))
    (rest : List Char) :
    ((tens (digitIn low high) second).or other ((padded 2 n).toList ++ rest)).head? =
      some (n, rest) :=
  head?_or (head?_tens_padded h (head?_digitIn (by omega) hrange) hsecond rest)

/-- It leaves a numeral with another first figure to the other ways. -/
theorem or_padded_of_out {low high : Nat} {other : Reader Nat} (h : n < 100)
    (hout : ¬(low ≤ n / 10 ∧ n / 10 ≤ high)) (rest : List Char) :
    (tens (digitIn low high) second).or other ((padded 2 n).toList ++ rest) =
      other ((padded 2 n).toList ++ rest) := by
  refine or_of_nil ?_
  rw [toList_padded_two h]
  refine tens_of_nil ?_ second
  rw [List.cons_append, digitIn_digitChar (by omega), if_neg hout]

/-- A numeral of one figure is not read as one of two when a colon is behind it. -/
theorem tens_of_colon {value? : Char → Option Nat} (hfirst : first = char value?) {c : Char}
    {rest : List Char} (hsecond : second (':' :: rest) = []) :
    tens first second (c :: ':' :: rest) = [] := by
  rw [tens_apply, hfirst, char]
  cases value? c with
  | none => rfl
  | some d =>
    show ((second (':' :: rest)).map _) ++ [] = []
    rw [hsecond]
    rfl

end

theorem digit_colon (rest : List Char) : digit (':' :: rest) = [] :=
  char_of_none (by decide)

theorem digitIn_colon (low high : Nat) (rest : List Char) : digitIn low high (':' :: rest) = [] :=
  char_of_none rfl

section

variable {n : Nat} (rest : List Char)

theorem head?_twoDigits (h : n < 100) :
    (tens digit digit ((padded 2 n).toList ++ rest)).head? = some (n, rest) :=
  head?_tens_padded h (head?_digit (by omega)) (head?_digit (by omega)) rest

theorem head?_minute (h : n < 60) :
    (minute ((padded 2 n).toList ++ rest)).head? = some (n, rest) :=
  head?_or_padded (by omega) (by omega) (head?_digit (by omega)) rest

theorem head?_hour (h : n < 24) : (hour ((padded 2 n).toList ++ rest)).head? = some (n, rest) := by
  by_cases hlate : 20 ≤ n
  · exact head?_or_padded (by omega) (by omega) (head?_digitIn (by omega) (by omega)) rest
  · rw [hour, or_padded_of_out (by omega) (by omega)]
    exact head?_or_padded (by omega) (by omega) (head?_digit (by omega)) rest

theorem head?_month (hfirst : 1 ≤ n) (hlast : n ≤ 12) :
    (month ((padded 2 n).toList ++ rest)).head? = some (n, rest) := by
  by_cases hlate : 10 ≤ n
  · exact head?_or_padded (by omega) (by omega) (head?_digitIn (by omega) (by omega)) rest
  · rw [month, or_padded_of_out (by omega) (by omega)]
    exact head?_or_padded (by omega) (by omega) (head?_digitIn (by omega) (by omega)) rest

theorem head?_day (hfirst : 1 ≤ n) (hlast : n ≤ 31) :
    (day ((padded 2 n).toList ++ rest)).head? = some (n, rest) := by
  by_cases hlate : 30 ≤ n
  · exact head?_or_padded (by omega) (by omega) (head?_digitIn (by omega) (by omega)) rest
  rw [day, or_padded_of_out (by omega) (by omega)]
  by_cases hmiddle : 10 ≤ n
  · exact head?_or_padded (by omega) (by omega) (head?_digit (by omega)) rest
  · rw [or_padded_of_out (by omega) (by omega)]
    exact head?_or_padded (by omega) (by omega) (head?_digitIn (by omega) (by omega)) rest

theorem head?_longYear (h : n < 10000) :
    (longYear ((padded 4 n).toList ++ rest)).head? = some (n, rest) := by
  rw [toList_padded_four, List.append_assoc]
  refine (head?_map _ (head?_pair (head?_twoDigits _ (by omega))
    (head?_twoDigits rest (by omega)))).trans ?_
  show some (100 * (n / 100) + n % 100, rest) = some (n, rest)
  rw [Nat.div_add_mod]

theorem head?_shortYear (hfirst : 1969 ≤ n) (hlast : n ≤ 2068) :
    (shortYear ((padded 2 (n % 100)).toList ++ rest)).head? = some (n, rest) := by
  refine (head?_map _ (head?_twoDigits rest (by omega))).trans ?_
  have hcentury : (if n % 100 ≤ 68 then 2000 + n % 100 else 1900 + n % 100) = n := by
    split <;> omega
  rw [hcentury]

/-- An hour with one figure or with two is read up to the colon. -/
theorem head?_hour_colon {width : Nat} (hwidth : width = 1 ∨ width = 2) (h : n < 24) :
    (hour ((padded width n).toList ++ ':' :: rest)).head? = some (n, ':' :: rest) := by
  rcases toList_padded_cases hwidth n with ⟨hn, hone⟩ | htwo
  · rw [hone, List.singleton_append, hour,
      or_of_nil (tens_of_colon (rfl : digitIn 2 2 = char _) (digitIn_colon ..)),
      or_of_nil (tens_of_colon (rfl : digitIn 0 1 = char _) (digit_colon rest))]
    exact head?_digit hn _
  · rw [htwo]
    exact head?_hour _ h

theorem head?_dialHour_colon {width : Nat} (hwidth : width = 1 ∨ width = 2) (h : n < 100) :
    (((tens digit digit).or digit) ((padded width n).toList ++ ':' :: rest)).head? =
      some (n, ':' :: rest) := by
  rcases toList_padded_cases hwidth n with ⟨hn, hone⟩ | htwo
  · rw [hone, List.singleton_append,
      or_of_nil (tens_of_colon (rfl : digit = char _) (digit_colon rest))]
    exact head?_digit hn _
  · rw [htwo]
    exact head?_or (head?_twoDigits _ h)

theorem head?_clock {width minute : Nat} (hwidth : width = 1 ∨ width = 2) (h : n < 24)
    (hminute : minute < 60) :
    ((pair hour (pair (mark ':') Reader.minute)) ((clockSpelling width n minute).toList ++ rest)).head? =
      some ((n, (), minute), rest) := by
  have hspelling : (clockSpelling width n minute).toList ++ rest =
      (padded width n).toList ++ ':' :: ((padded 2 minute).toList ++ rest) := by
    simp [clockSpelling]
  rw [hspelling]
  exact head?_pair (head?_hour_colon _ hwidth h) (head?_pair (head?_mark ':') (head?_minute rest hminute))

end

/-- A date behind the spelling of its year, with a clock behind it, is read by a reader that reads
the year. -/
theorem whole?_dated {year : Reader Nat} {date : Date} {hour minute : Nat} {s : String}
    (hyear : ∀ rest, (year (s.toList ++ rest)).head? = some (date.year.toNat, rest))
    (hdate : date.isValid) (hfirst : 1 ≤ date.year) (hhour : hour < 24) (hminute : minute < 60) :
    (dated year).whole? (s ++ "-" ++ date.daySpelling ++ "T" ++ clockSpelling 2 hour minute).toList =
      some (date, hour, minute) := by
  obtain ⟨hmonth, hmonth', hday, hday'⟩ := Date.isValid_iff.1 hdate
  replace hday' := Nat.le_trans hday' (daysInMonth_le ..)
  have hspelling : (s ++ "-" ++ date.daySpelling ++ "T" ++ clockSpelling 2 hour minute).toList =
      s.toList ++ '-' :: ((padded 2 date.month).toList ++ '-' :: ((padded 2 date.day).toList ++
        'T' :: ((clockSpelling 2 hour minute).toList ++ []))) := by
    simp [Date.daySpelling]
  rw [hspelling]
  refine (whole?_of_head? <| head?_map _ <| head?_pair (hyear _) <| head?_pair (head?_mark '-') <|
    head?_pair (head?_month _ hmonth hmonth') <| head?_pair (head?_mark '-') <|
      head?_pair (head?_day _ hday hday') <| head?_pair (head?_letter 'T' rfl) <|
        head?_clock [] (.inr rfl) hhour hminute).trans ?_
  show some (Date.mk date.year.toNat date.month date.day, hour, minute) = some (date, hour, minute)
  rw [Int.toNat_of_nonneg (by omega)]

/-- A half of the day is read in letters of either case. -/
theorem head?_half {c d : Char} {afternoon : Bool}
    (hc : c.toLower = if afternoon then 'p' else 'a') (hd : d.toLower = 'm') :
    (half [c, d]).head? = some (afternoon, []) := by
  refine head?_map _ (head?_pair ?_ (head?_letter d hd))
  cases afternoon with
  | false => exact head?_or (head?_map _ (head?_letter c hc))
  | true =>
    have hmorning : letter 'a' [c, d] = [] :=
      char_of_none (if_neg fun h => absurd (hc.symm.trans h) (by decide))
    rw [or_of_nil (by rw [map, hmorning]; rfl)]
    exact head?_map _ (head?_letter c hc)

theorem whole?_dial {gap : Reader Unit} {between : List Char} {c d : Char} {afternoon : Bool}
    {width shown minute : Nat} (hwidth : width = 1 ∨ width = 2) (hshown : shown ≤ 12)
    (hminute : minute < 60) (hgap : ∀ rest, (gap (between ++ rest)).head? = some ((), rest))
    (hc : c.toLower = if afternoon then 'p' else 'a') (hd : d.toLower = 'm') :
    (dial gap).whole? ((clockSpelling width shown minute).toList ++ (between ++ [c, d])) =
      some (shown, minute, afternoon) := by
  have hspelling : (clockSpelling width shown minute).toList ++ (between ++ [c, d]) =
      (padded width shown).toList ++ ':' :: ((padded 2 minute).toList ++ (between ++ [c, d])) := by
    simp [clockSpelling]
  rw [hspelling]
  exact whole?_of_head? <| head?_map _ <|
    head?_pair (head?_dialHour_colon _ hwidth (by omega)) <| head?_pair (head?_mark ':') <|
      head?_pair (head?_twoDigits _ (by omega)) <| head?_pair (hgap _) (head?_half hc hd)

end Reader

/-! ### Spellings are read -/

section

variable {hour minute : Nat} {s : String}

/-- The letters of a half of the day, one by one. -/
theorem exists_half {half : String} (hhalf : half.toLower = if hour < 12 then "am" else "pm") :
    ∃ c d, half.toList = [c, d] ∧ c.toLower = (if decide (12 ≤ hour) then 'p' else 'a') ∧
      d.toLower = 'm' := by
  have hletters : half.toList.map Char.toLower =
      [if decide (12 ≤ hour) then 'p' else 'a', 'm'] := by
    rw [← String.toList_map]
    show half.toLower.toList = _
    rw [hhalf]
    by_cases h : hour < 12
    · simp [h]
    · simp [h, Nat.le_of_not_lt h]
  obtain ⟨c, behind, hhalf, hc, hbehind⟩ := List.map_eq_cons_iff.1 hletters
  obtain ⟨d, none, rfl, hd, hend⟩ := List.map_eq_cons_iff.1 hbehind
  obtain rfl := List.map_eq_nil_iff.1 hend
  exact ⟨c, d, hhalf, hc, hd⟩

/-- What a dial shows in the right half of the day is the hour. -/
theorem onDial_half {shown : Nat} (hhour : hour < 24) (hminute : minute < 60) (hshown : shown ≤ 12)
    (hdial : shown % 12 = hour % 12) :
    TimeFormat.clock?.onDial (shown, minute, decide (12 ≤ hour)) = some (hour, minute) := by
  refine (if_pos ⟨hshown, Nat.le_of_lt_succ hminute⟩).trans ?_
  have hshows : (shown % 12 + if decide (12 ≤ hour) then 12 else 0) = hour := by
    by_cases h : 12 ≤ hour
    · rw [if_pos (decide_eq_true h)]
      omega
    · rw [if_neg (by simpa using h)]
      omega
  rw [hshows]

/-- **Every spelling of an hour and a minute shows them in one of the formats.** -/
theorem clock?_of_spells (hhour : hour < 24) (hminute : minute < 60) (h : Spells hour minute s) :
    ∃ format : TimeFormat, format.clock? s.toList = some (hour, minute) := by
  cases h with
  | separated hwidth =>
    refine ⟨.separated, ?_⟩
    have hread := Reader.whole?_of_head? (Reader.head?_clock [] hwidth hhour hminute)
    rw [List.append_nil] at hread
    rw [TimeFormat.clock?, hread]
    rfl
  | compact =>
    refine ⟨.compact, ?_⟩
    have hread := Reader.head?_minute [] hminute
    rw [List.append_nil] at hread
    rw [TimeFormat.clock?, String.toList_append]
    exact Reader.whole?_of_head? (Reader.head?_pair (Reader.head?_hour _ hhour) hread)
  | @dial width shown gap half hwidth hshown hdial hgap hhalf =>
    obtain ⟨c, d, hletters, hc, hd⟩ := exists_half hhalf
    have hspelling : (clockSpelling width shown minute ++ gap ++ half).toList =
        (clockSpelling width shown minute).toList ++ (gap.toList ++ [c, d]) := by
      rw [String.toList_append, String.toList_append, hletters, List.append_assoc]
    rw [hspelling]
    rcases hgap with rfl | rfl
    · refine ⟨.dial, ?_⟩
      rw [TimeFormat.clock?, Reader.whole?_dial hwidth hshown hminute (fun _ => rfl) hc hd]
      exact onDial_half hhour hminute hshown hdial
    · refine ⟨.spacedDial, ?_⟩
      rw [TimeFormat.clock?,
        Reader.whole?_dial hwidth hshown hminute (fun _ => Reader.head?_mark ' ') hc hd]
      exact onDial_half hhour hminute hshown hdial
  | @longDated date hdate hfirst hlast =>
    refine ⟨.longDated, ?_⟩
    rw [TimeFormat.clock?, Reader.whole?_dated
      (fun rest => Reader.head?_longYear rest (by omega)) hdate hfirst hhour hminute]
    exact if_pos (by rw [hdate, decide_eq_true hfirst]; rfl)
  | @shortDated date hdate hfirst hlast =>
    refine ⟨.shortDated, ?_⟩
    have hpositive : 1 ≤ date.year := by omega
    rw [TimeFormat.clock?, Reader.whole?_dated
      (fun rest => Reader.head?_shortYear rest (by omega) (by omega)) hdate hpositive hhour hminute]
    exact if_pos (by rw [hdate, decide_eq_true hpositive]; rfl)

end
end ZonePlan.Calendar
