/-
The dates of the calendar and the numbers of their days.

`Date.next` and `Date.previous` go through the calendar as one does by hand: to the next day of a
month, to the next month, to the next year, February having its leap day every fourth year but
three centuries of four.  The number of a day is given by a few divisions instead.  The two agree:
one date later is one number more (`dayNumber_next`), so that any number of days counted by the
calendar is added to the number of the day (`dayNumber_later`).  And the date is found again from
the number (`dateOfDay_dayNumber`, `dayNumber_dateOfDay`).

Both go by years that begin in March.  In such a year the first of each month has a fixed place
(`monthStart`), the leap day being the last day, and a day is told by its year and its place in that
(`Date.marchYear`, `Date.sinceMarch`).
-/
import Mathlib.Logic.Function.Iterate
import ZonePlan.Calendar.Date

namespace ZonePlan.Calendar

theorem isLeap_iff {year : Int} :
    isLeap year = true ↔ year % 4 = 0 ∧ (year % 100 ≠ 0 ∨ year % 400 = 0) := by
  simp [isLeap]

theorem daysInMonth_february (year : Int) :
    daysInMonth year 2 = if isLeap year then 29 else 28 := rfl

theorem le_daysInMonth (year : Int) (month : Nat) : 28 ≤ daysInMonth year month := by
  unfold daysInMonth
  split
  · split <;> omega
  · split <;> omega

theorem daysInMonth_le (year : Int) (month : Nat) : daysInMonth year month ≤ 31 := by
  unfold daysInMonth
  split
  · split <;> omega
  · split <;> omega

/-! ### Years that begin in March -/

/-- The days from the first of March to the first of the month that comes some months later. -/
def monthStart (months : Nat) : Nat := (153 * months + 2) / 5

/-- The days from the beginning of era 0 to the first of March of a year. -/
def yearStart (year : Int) : Int :=
  year / 400 * 146097 + (year % 400 * 365 + year % 400 / 4 - year % 400 / 100)

/-- Whether a year that begins in March has a day of a number, its first day having number 0. -/
def HasDay (year : Int) (day : Nat) : Prop :=
  day < 365 ∨ day = 365 ∧ isLeap (year + 1) = true

theorem yearStart_succ (year : Int) :
    yearStart (year + 1) = yearStart year + if isLeap (year + 1) then 366 else 365 := by
  split
  · rename_i hleap
    rw [isLeap_iff] at hleap
    unfold yearStart
    omega
  · rename_i hleap
    rw [isLeap_iff] at hleap
    unfold yearStart
    omega

/-- Every month but February ends where the next one starts. -/
theorem monthStart_succ (year : Int) (month : Nat) (h : 1 ≤ month) (h' : month ≤ 12)
    (hfeb : month ≠ 2) :
    monthStart ((month + 9) % 12 + 1) = monthStart ((month + 9) % 12) + daysInMonth year month := by
  have hlength : ∀ month < 13, 1 ≤ month → month ≠ 2 → monthStart ((month + 9) % 12 + 1) =
      monthStart ((month + 9) % 12) +
        if month = 4 ∨ month = 6 ∨ month = 9 ∨ month = 11 then 30 else 31 := by decide
  rw [daysInMonth, if_neg hfeb]
  exact hlength month (by omega) h hfeb

theorem month_of_day {months day : Nat} (h : monthStart months ≤ day)
    (h' : day < monthStart (months + 1)) : (5 * day + 2) / 153 = months := by
  unfold monthStart at h h'
  omega

namespace Date

/-- The year of a date, years taken to begin in March. -/
def marchYear (d : Date) : Int := if d.month ≤ 2 then d.year - 1 else d.year

/-- The months from March to the month of a date. -/
def marchMonth (d : Date) : Nat := (d.month + 9) % 12

/-- The days from the first of March to a date. -/
def sinceMarch (d : Date) : Nat := monthStart d.marchMonth + d.day - 1

/-- The date of a day of a year that begins in March. -/
def ofMarch (year : Int) (day : Nat) : Date :=
  let month := (5 * day + 2) / 153
  { year := year + (if month < 10 then 0 else 1)
    month := if month < 10 then month + 3 else month - 9
    day := day - monthStart month + 1 }

theorem isValid_iff {d : Date} : d.isValid = true ↔
    1 ≤ d.month ∧ d.month ≤ 12 ∧ 1 ≤ d.day ∧ d.day ≤ daysInMonth d.year d.month := by
  simp [isValid, and_assoc]

theorem dayNumber_eq {d : Date} (h : d.isValid = true) :
    d.dayNumber = yearStart d.marchYear + d.sinceMarch - 719468 := by
  rw [isValid_iff] at h
  simp only [dayNumber, yearStart, marchYear, sinceMarch, marchMonth, monthStart]
  omega

/-- A date has a place in its year, and lies in its month by that. -/
theorem hasDay_sinceMarch {d : Date} (h : d.isValid = true) :
    HasDay d.marchYear d.sinceMarch ∧ monthStart d.marchMonth ≤ d.sinceMarch ∧
      d.sinceMarch < monthStart (d.marchMonth + 1) := by
  obtain ⟨hmonth, hmonth', hday, hlength⟩ := isValid_iff.1 h
  by_cases hfeb : d.month = 2
  · rw [hfeb, daysInMonth_february] at hlength
    have hyear : d.marchYear + 1 = d.year := by
      unfold marchYear
      omega
    simp only [HasDay, hyear, sinceMarch, marchMonth, hfeb, monthStart]
    split at hlength
    · rename_i hleap
      simp only [hleap, and_true]
      omega
    · omega
  · have hend := monthStart_succ d.year d.month hmonth hmonth' hfeb
    have hlast : d.marchMonth ≤ 10 := by
      unfold marchMonth
      omega
    have hnext : d.sinceMarch < monthStart (d.marchMonth + 1) := by
      unfold sinceMarch marchMonth
      omega
    refine ⟨.inl ?_, ?_, hnext⟩
    · unfold monthStart at hnext
      omega
    · unfold sinceMarch
      omega

theorem ofMarch_eq {year : Int} {months day : Nat} (h : monthStart months ≤ day)
    (h' : day < monthStart (months + 1)) : ofMarch year day =
      if months < 10 then ⟨year, months + 3, day - monthStart months + 1⟩
      else ⟨year + 1, months - 9, day - monthStart months + 1⟩ := by
  simp only [ofMarch, month_of_day h h']
  split <;> simp

/-- A date is found again from its year and its place in that. -/
theorem ofMarch_sinceMarch {d : Date} (h : d.isValid = true) :
    ofMarch d.marchYear d.sinceMarch = d := by
  obtain ⟨-, hstart, hend⟩ := hasDay_sinceMarch h
  obtain ⟨hmonth, hmonth', hday, -⟩ := isValid_iff.1 h
  have hback : d.sinceMarch - monthStart d.marchMonth + 1 = d.day := by
    unfold sinceMarch
    omega
  rw [ofMarch_eq hstart hend, hback]
  unfold marchYear marchMonth
  by_cases hlate : 2 < d.month
  · rw [if_pos (by omega), if_neg (by omega), show (d.month + 9) % 12 + 3 = d.month by omega]
  · rw [if_neg (by omega), if_pos (by omega), Int.sub_add_cancel,
      show (d.month + 9) % 12 - 9 = d.month by omega]

/-- Each place in a year is that of a date. -/
theorem isValid_ofMarch {year : Int} {day : Nat} (h : HasDay year day) :
    (ofMarch year day).isValid = true ∧ (ofMarch year day).marchYear = year ∧
      (ofMarch year day).sinceMarch = day := by
  obtain ⟨months, hle, hstart, hend⟩ : ∃ months ≤ 11, monthStart months ≤ day ∧
      day < monthStart (months + 1) := by
    refine ⟨(5 * day + 2) / 153, ?_, ?_⟩
    · unfold HasDay at h
      omega
    · unfold monthStart
      omega
  rw [ofMarch_eq hstart hend]
  by_cases hearly : months < 10
  · have hmonth : (months + 3 + 9) % 12 = months := by omega
    have hlength := monthStart_succ year (months + 3) (by omega) (by omega) (by omega)
    simp only [if_pos hearly, isValid_iff, marchYear, sinceMarch, marchMonth, hmonth] at hlength ⊢
    rw [if_neg (by omega)]
    omega
  · have hmonth : (months - 9 + 9) % 12 = months := by omega
    simp only [if_neg hearly, isValid_iff, marchYear, sinceMarch, marchMonth, hmonth]
    rw [if_pos (by omega)]
    rcases (show months = 10 ∨ months = 11 by omega) with rfl | rfl
    · have hlength := monthStart_succ (year + 1) 1 (by omega) (by omega) (by omega)
      simp only [Nat.reduceAdd, Nat.reduceMod, Nat.reduceSub] at *
      omega
    · -- February has its 29th day just if the year has a day of number 365.
      unfold HasDay at h
      simp only [Nat.reduceSub, daysInMonth_february, monthStart] at *
      split
      · omega
      · simp_all
        omega

end Date

/-! ### Eras of 400 years -/

/-- The year of an era in which a day of the era lies. -/
def yearOfEra (day : Nat) : Nat := (day - day / 1460 + day / 36524 - day / 146096) / 365

theorem dateOfDay_eq_ofMarch (n : Int) : dateOfDay n =
    let place := ((n + 719468) % 146097).toNat
    .ofMarch (yearOfEra place + (n + 719468) / 146097 * 400)
      (place - (365 * yearOfEra place + yearOfEra place / 4 - yearOfEra place / 100)) := rfl

/-- A year is told by its era, the centuries in that, the fours of years in those, and the years in
those. -/
theorem exists_cycles (year : Int) : ∃ (era : Int) (centuries fours years : Nat), centuries ≤ 3 ∧
    fours ≤ 24 ∧ years ≤ 3 ∧
      year = 400 * era + ((100 * centuries + 4 * fours + years : Nat) : Int) :=
  ⟨year / 400, (year % 400 / 100).toNat, (year % 100 / 4).toNat, (year % 4).toNat, by omega,
    by omega, by omega, by omega⟩

theorem yearStart_eq (era : Int) {centuries fours years : Nat} (hcenturies : centuries ≤ 3)
    (hfours : fours ≤ 24) (hyears : years ≤ 3) :
    yearStart (400 * era + ((100 * centuries + 4 * fours + years : Nat) : Int)) =
      146097 * era + ((36524 * centuries + 1461 * fours + 365 * years : Nat) : Int) := by
  unfold yearStart
  omega

theorem yearOfEra_eq {centuries fours years day : Nat} (hcenturies : centuries ≤ 3)
    (hfours : fours ≤ 24) (hyears : years ≤ 3)
    (hday : day < 365 ∨ day = 365 ∧ years = 3 ∧ (fours < 24 ∨ centuries = 3)) :
    yearOfEra (36524 * centuries + 1461 * fours + 365 * years + day) =
      100 * centuries + 4 * fours + years := by
  unfold yearOfEra
  generalize hplace : 36524 * centuries + 1461 * fours + 365 * years + day = place
  by_cases hlast : place = 146096
  · subst hlast
    omega
  · -- Skipping every 1460th day takes out the leap days, up to one in the last of four years.
    have hera : place / 146096 = 0 := by omega
    have hcentury : place / 36524 = centuries := by omega
    have hleap : place / 1460 = 25 * centuries + fours ∧ day < 365 ∨
        place / 1460 = 25 * centuries + fours + 1 ∧ years = 3 ∧ 0 < day := by omega
    rw [hera, hcentury]
    omega

/-- The date of a day is the one of its place in its year. -/
theorem dateOfDay_yearStart {year : Int} {day : Nat} (h : HasDay year day) :
    dateOfDay (yearStart year + day - 719468) = .ofMarch year day := by
  obtain ⟨era, centuries, fours, years, hcenturies, hfours, hyears, rfl⟩ := exists_cycles year
  have hday : day < 365 ∨ day = 365 ∧ years = 3 ∧ (fours < 24 ∨ centuries = 3) := by
    refine h.imp_right fun hleap => ?_
    rw [isLeap_iff] at hleap
    omega
  generalize hplace : 36524 * centuries + 1461 * fours + 365 * years + day = place
  have hyear : yearOfEra place = 100 * centuries + 4 * fours + years := by
    rw [← hplace]
    exact yearOfEra_eq hcenturies hfours hyears hday
  have hlt : place < 146097 := by omega
  have hsplit : yearStart (400 * era + ((100 * centuries + 4 * fours + years : Nat) : Int)) + day =
      146097 * era + place := by
    rw [yearStart_eq era hcenturies hfours hyears]
    omega
  have hmod : ((146097 * era + place) % 146097).toNat = place := by omega
  have hfour : (100 * centuries + 4 * fours + years) / 4 = 25 * centuries + fours := by omega
  have hcentury : (100 * centuries + 4 * fours + years) / 100 = centuries := by omega
  simp only [dateOfDay_eq_ofMarch, Int.sub_add_cancel, hsplit, hmod, hyear, hfour, hcentury]
  congr 1
  · omega
  · omega

/-- Every day lies in a year. -/
theorem exists_yearStart (n : Int) :
    ∃ (year : Int) (day : Nat), HasDay year day ∧ n = yearStart year + day - 719468 := by
  obtain ⟨place, hplace⟩ :=
    Int.eq_ofNat_of_zero_le (show 0 ≤ (n + 719468) % 146097 by omega)
  have hlt : place < 146097 := by omega
  generalize hcenturies : min (place / 36524) 3 = centuries
  generalize hfours : (place - 36524 * centuries) / 1461 = fours
  generalize hyears : min ((place - 36524 * centuries) % 1461 / 365) 3 = years
  refine ⟨400 * ((n + 719468) / 146097) + ((100 * centuries + 4 * fours + years : Nat) : Int),
    place - (36524 * centuries + 1461 * fours + 365 * years), ?_, ?_⟩
  · unfold HasDay
    rw [isLeap_iff]
    omega
  · rw [yearStart_eq _ (by omega) (by omega) (by omega)]
    omega

/-! ### Days and dates -/

theorem isValid_dateOfDay (n : Int) : (dateOfDay n).isValid = true := by
  obtain ⟨year, day, hday, rfl⟩ := exists_yearStart n
  rw [dateOfDay_yearStart hday]
  exact (Date.isValid_ofMarch hday).1

theorem dayNumber_dateOfDay (n : Int) : (dateOfDay n).dayNumber = n := by
  obtain ⟨year, day, hday, rfl⟩ := exists_yearStart n
  obtain ⟨hvalid, hyear, hsince⟩ := Date.isValid_ofMarch hday
  rw [dateOfDay_yearStart hday, Date.dayNumber_eq hvalid, hyear, hsince]

namespace Date

theorem dateOfDay_dayNumber {d : Date} (h : d.isValid = true) : dateOfDay d.dayNumber = d := by
  rw [dayNumber_eq h, dateOfDay_yearStart (hasDay_sinceMarch h).1, ofMarch_sinceMarch h]

/-! ### One day after the other -/

/-- The date after a date. -/
def next (d : Date) : Date :=
  if d.day < daysInMonth d.year d.month then ⟨d.year, d.month, d.day + 1⟩
  else if d.month < 12 then ⟨d.year, d.month + 1, 1⟩
  else ⟨d.year + 1, 1, 1⟩

/-- The date before a date. -/
def previous (d : Date) : Date :=
  if 1 < d.day then ⟨d.year, d.month, d.day - 1⟩
  else if 1 < d.month then ⟨d.year, d.month - 1, daysInMonth d.year (d.month - 1)⟩
  else ⟨d.year - 1, 12, 31⟩

/-- The date some days later, or earlier, counted day by day. -/
def later (d : Date) : Int → Date
  | .ofNat n => next^[n] d
  | .negSucc n => previous^[n + 1] d

/-- The first and the last day of a month are dates. -/
theorem isValid_ends (year : Int) {month : Nat} (h : 1 ≤ month) (h' : month ≤ 12) :
    isValid ⟨year, month, 1⟩ = true ∧ isValid ⟨year, month, daysInMonth year month⟩ = true := by
  have hlength : 1 ≤ daysInMonth year month := Nat.le_trans (by decide) (le_daysInMonth year month)
  exact ⟨isValid_iff.2 ⟨h, h', Nat.le_refl 1, hlength⟩,
    isValid_iff.2 ⟨h, h', hlength, Nat.le_refl _⟩⟩

theorem isValid_next {d : Date} (h : d.isValid = true) : d.next.isValid = true := by
  rw [isValid_iff] at h
  unfold next
  split
  · rw [isValid_iff]
    simp only
    omega
  · split
    · exact (isValid_ends d.year (by omega) (by omega)).1
    · rfl

/-- The first of March is the day after the last one of February, another year beginning then. -/
theorem dayNumber_march (year : Int) :
    dayNumber ⟨year, 3, 1⟩ = dayNumber ⟨year, 2, daysInMonth year 2⟩ + 1 := by
  have hstart := yearStart_succ (year - 1)
  rw [Int.sub_add_cancel] at hstart
  rw [dayNumber_eq (isValid_ends year (by decide) (by decide)).1,
    dayNumber_eq (isValid_ends year (by decide) (by decide)).2]
  simp only [marchYear, sinceMarch, marchMonth, monthStart, daysInMonth_february, Nat.reduceAdd,
    Nat.reduceMod, Nat.reduceLeDiff, reduceIte, hstart]
  split
  · omega
  · omega

/-- The first of any other month is the day after the last one of the month before. -/
theorem dayNumber_first {year : Int} {month : Nat} (h : 1 ≤ month) (h' : month ≤ 11)
    (hfeb : month ≠ 2) :
    dayNumber ⟨year, month + 1, 1⟩ = dayNumber ⟨year, month, daysInMonth year month⟩ + 1 := by
  have hend := monthStart_succ year month h (by omega) hfeb
  have hlength := le_daysInMonth year month
  rw [dayNumber_eq (isValid_ends year (Nat.le_succ_of_le h) (Nat.succ_le_succ h')).1,
    dayNumber_eq (isValid_ends year h (Nat.le_succ_of_le h')).2]
  simp only [marchYear, sinceMarch, marchMonth]
  rw [show (month + 1 + 9) % 12 = (month + 9) % 12 + 1 by omega, hend]
  by_cases hjanuary : month = 1
  · rw [if_pos (by omega), if_pos (by omega)]
    omega
  · rw [if_neg (by omega), if_neg (by omega)]
    omega

theorem dayNumber_newYear (year : Int) :
    dayNumber ⟨year + 1, 1, 1⟩ = dayNumber ⟨year, 12, 31⟩ + 1 := by
  have hvalid : isValid ⟨year + 1, 1, 1⟩ = true := rfl
  have hvalid' : isValid ⟨year, 12, 31⟩ = true := rfl
  rw [dayNumber_eq hvalid, dayNumber_eq hvalid']
  simp only [marchYear, sinceMarch, marchMonth, monthStart, Nat.reduceAdd, Nat.reduceMod,
    Nat.reduceLeDiff, reduceIte, Int.add_sub_cancel]
  omega

/-- The next date has the next day. -/
theorem dayNumber_next {d : Date} (h : d.isValid = true) : d.next.dayNumber = d.dayNumber + 1 := by
  obtain ⟨year, month, day⟩ := d
  obtain ⟨hmonth, hmonth', hday, hlength⟩ : 1 ≤ month ∧ month ≤ 12 ∧ 1 ≤ day ∧
      day ≤ daysInMonth year month := isValid_iff.1 h
  by_cases hlast : day < daysInMonth year month
  · have hnext : isValid ⟨year, month, day + 1⟩ = true :=
      isValid_iff.2 ⟨hmonth, hmonth', Nat.le_add_left 1 day, hlast⟩
    rw [next, if_pos hlast, dayNumber_eq hnext, dayNumber_eq h]
    simp only [marchYear, sinceMarch, marchMonth]
    omega
  obtain rfl : day = daysInMonth year month := by omega
  rw [next, if_neg hlast]
  by_cases hdecember : month < 12
  · rw [if_pos hdecember]
    by_cases hfeb : month = 2
    · rw [hfeb]
      exact dayNumber_march year
    · exact dayNumber_first hmonth (Nat.le_of_lt_succ hdecember) hfeb
  · obtain rfl : month = 12 := Nat.le_antisymm hmonth' (Nat.not_lt.1 hdecember)
    rw [if_neg hdecember]
    exact dayNumber_newYear year

/-- A date is the next one of the date before it. -/
theorem next_previous {d : Date} (h : d.isValid = true) :
    d.previous.isValid = true ∧ d.previous.next = d := by
  obtain ⟨hmonth, hmonth', hday, hlength⟩ := isValid_iff.1 h
  unfold previous
  by_cases hfirst : 1 < d.day
  · rw [if_pos hfirst]
    refine ⟨?_, ?_⟩
    · rw [isValid_iff]
      simp only
      omega
    · unfold next
      simp only
      rw [if_pos (by omega), show d.day - 1 + 1 = d.day by omega]
  rw [if_neg hfirst]
  have hone : d.day = 1 := by omega
  by_cases hjanuary : 1 < d.month
  · rw [if_pos hjanuary]
    refine ⟨(isValid_ends d.year (by omega) (by omega)).2, ?_⟩
    · unfold next
      simp only
      rw [if_neg (Nat.lt_irrefl _), if_pos (by omega), Nat.sub_add_cancel hmonth, ← hone]
  · rw [if_neg hjanuary]
    refine ⟨rfl, ?_⟩
    have hmonths : d.month = 1 := by omega
    have hlast : daysInMonth (d.year - 1) 12 = 31 := rfl
    unfold next
    simp only [hlast, Nat.lt_irrefl, reduceIte, Int.sub_add_cancel]
    exact congrArg₂ (Date.mk d.year) hmonths.symm hone.symm

theorem dayNumber_previous {d : Date} (h : d.isValid = true) :
    d.previous.dayNumber = d.dayNumber - 1 := by
  obtain ⟨hvalid, hnext⟩ := next_previous h
  have hstep := dayNumber_next hvalid
  rw [hnext] at hstep
  omega

/-- **Counting days by the calendar is adding to the number of a day.** -/
theorem dayNumber_later {d : Date} (h : d.isValid = true) (days : Int) :
    (d.later days).isValid = true ∧ (d.later days).dayNumber = d.dayNumber + days := by
  have hnext : ∀ n : Nat, (next^[n] d).isValid = true ∧
      (next^[n] d).dayNumber = d.dayNumber + n := by
    intro n
    induction n with
    | zero => exact ⟨h, (Int.add_zero _).symm⟩
    | succ n ih =>
      rw [Function.iterate_succ_apply', dayNumber_next ih.1, ih.2]
      exact ⟨isValid_next ih.1, by omega⟩
  have hprevious : ∀ n : Nat, (previous^[n] d).isValid = true ∧
      (previous^[n] d).dayNumber = d.dayNumber - n := by
    intro n
    induction n with
    | zero => exact ⟨h, (Int.sub_zero _).symm⟩
    | succ n ih =>
      rw [Function.iterate_succ_apply', dayNumber_previous ih.1, ih.2]
      exact ⟨(next_previous ih.1).1, by omega⟩
  cases days with
  | ofNat n => exact hnext n
  | negSucc n => exact hprevious (n + 1)

end Date
end ZonePlan.Calendar
