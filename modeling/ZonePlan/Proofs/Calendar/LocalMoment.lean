/-
What a local clock shows of a number of milliseconds.

The microseconds of a whole number of milliseconds may be wrong, but not its second
(`microsOfCount_whole`); and what is shown of the minute and of the day is read off the second.  So
a local clock shows the minute that whole numbers give (`localMoment_whole`).  The calendar does not
refuse the day either: of the years 2 to 9999 every day can be shown, and the day before it.
-/
import Mathlib.Algebra.Group.Nat.Defs
import ZonePlan.Proofs.Calendar.Date
import ZonePlan.Proofs.Number.Seconds

namespace ZonePlan.Calendar

open Number (pow2)

/-! ### Years that can be shown -/

theorem checkYear_eq_ok {day : Int} (hfirst : 1 ≤ (dateOfDay day).year)
    (hlast : (dateOfDay day).year ≤ 9999) : checkYear day = .ok () := by
  have hlimit : yearLimit = 2147483648 := by decide
  have hsystem : systemYear day = .ok (dateOfDay day).year := by
    simp only [systemYear]
    rw [if_neg (by omega), Int.bmod_eq_of_le (by omega) (by omega)]
  rw [checkYear, hsystem]
  exact if_neg (by omega)

theorem dateOfDay_pred (day : Int) : dateOfDay (day - 1) = (dateOfDay day).previous := by
  have hvalid := isValid_dateOfDay day
  have hnumber := Date.dayNumber_previous hvalid
  rw [dayNumber_dateOfDay] at hnumber
  rw [← hnumber, Date.dateOfDay_dayNumber (Date.next_previous hvalid).1]

theorem Date.year_previous (d : Date) :
    d.previous.year = d.year ∨ d.previous.year = d.year - 1 := by
  unfold previous
  split
  · exact .inl rfl
  · split
    · exact .inl rfl
    · exact .inr rfl

/-- The days of the years that a clock can show are few. -/
theorem natAbs_day_lt {day : Int} (hfirst : 1 ≤ (dateOfDay day).year)
    (hlast : (dateOfDay day).year ≤ 9999) : day.natAbs < 4000000 := by
  have hvalid := isValid_dateOfDay day
  have hday := Date.dayNumber_eq hvalid
  obtain ⟨hplace, -⟩ := Date.hasDay_sinceMarch hvalid
  rw [dayNumber_dateOfDay] at hday
  unfold HasDay at hplace
  unfold yearStart Date.marchYear at hday
  split at hday
  · omega
  · omega

/-! ### Moments -/

namespace Moment

theorem day_ofMicros (micros : Int) :
    (ofMicros micros).day = micros / microsPerMinute / minutesPerDay := by
  unfold ofMicros microsPerDay minutesPerDay
  rw [Int.ediv_ediv_of_nonneg (by omega)]
  congr 1

theorem minute_ofMicros (micros : Int) :
    ((ofMicros micros).minute : Int) = micros / microsPerMinute % minutesPerDay := by
  unfold minute ofMicros microsPerDay microsPerMinute microsPerSecond minutesPerDay
  simp only
  omega

end Moment

/-- The milliseconds since the start of 1970 that a clock shows which is some minutes ahead of
universal time. -/
def localMillis (ahead millis : Int) : Int := millis + 60000 * ahead

/-- **A local clock shows the minute and the day of the exact number of milliseconds**, on every day
of the years 2 to 9999.  The clock may be thousands of years ahead or behind. -/
theorem localMoment_whole {ahead millis : Int} (hahead : ahead.natAbs ≤ 10 ^ 10)
    (hfirst : 2 ≤ (dateOfDay (localMillis ahead millis / 86400000)).year)
    (hlast : (dateOfDay (localMillis ahead millis / 86400000)).year ≤ 9999) :
    ∃ m, localMoment ahead (.whole millis) = .ok m ∧
      m.day = localMillis ahead millis / 86400000 ∧
      (m.minute : Int) = localMillis ahead millis / 60000 % 1440 := by
  have hday := natAbs_day_lt (by omega) hlast
  have hmillis : millis.natAbs < pow2 52 := by
    have hbits : pow2 52 = 4503599627370496 := by decide
    unfold localMillis at hday
    omega
  obtain ⟨micros, hmicros, hsecond⟩ := microsOfCount_whole hmillis
  have hminute : (micros + ahead * microsPerMinute) / microsPerMinute =
      localMillis ahead millis / 60000 := by
    unfold microsPerSecond at hsecond
    unfold localMillis microsPerMinute microsPerSecond
    omega
  have hshown : (Moment.ofMicros (micros + ahead * microsPerMinute)).day =
      localMillis ahead millis / 86400000 := by
    rw [Moment.day_ofMicros, hminute, minutesPerDay]
    omega
  refine ⟨Moment.ofMicros (micros + ahead * microsPerMinute), ?_, hshown, ?_⟩
  · have hbefore := Date.year_previous (dateOfDay (localMillis ahead millis / 86400000))
    rw [← dateOfDay_pred] at hbefore
    rw [localMoment, hmicros]
    simp only [bind, Except.bind, hshown]
    rw [checkYear_eq_ok (by omega) hlast, checkYear_eq_ok (by omega) (by omega)]
    rfl
  · rw [Moment.minute_ofMicros, hminute, minutesPerDay]
    rfl

end ZonePlan.Calendar
