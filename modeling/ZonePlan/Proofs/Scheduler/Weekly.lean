/-
The schedule goes by weeks and by minutes.

A period looks at two things of a moment: the weekday, and the full minutes since midnight.  So two
moments that agree in these are one to every search and to every comparison (`Coincide`), however
far apart their dates are, whatever their seconds, and however far ahead of universal time their
clocks are.

What is left is the calendar: that the weekday comes again every seven days, over the ends of months
and over leap days.  There the days are counted one by one (`Date.later`), and what a clock shows on
a date is told by its parts (`Moment.ofReading_eq_ok_iff`).
-/
import Mathlib.Tactic.SplitIfs
import ZonePlan.Proofs.Calendar.Date
import ZonePlan.Proofs.Period.InForce
import ZonePlan.Proofs.Scheduler.Deviation

namespace ZonePlan

namespace Calendar

/-- The weekday of a date, Monday being 0. -/
def Date.weekday (d : Date) : Nat := Calendar.weekday d.dayNumber

/-- Counting full weeks by the calendar leads to the same weekday. -/
theorem Date.weekday_later {d : Date} (h : d.isValid = true) (weeks : Int) :
    (d.later (7 * weeks)).weekday = d.weekday := by
  rw [weekday, (dayNumber_later h _).2, weekday_add_weeks, weekday]

namespace Moment

/-- A clock shows a date of the years 1 to 9999 and a time of that day. -/
theorem ofReading_eq_ok_iff {date : Date} {hour minute second micro : Nat} {offset : Option Int}
    {m : Moment} :
    ofReading date.year date.month date.day hour minute second micro offset = .ok m ↔
      (1 ≤ date.year ∧ date.year ≤ 9999 ∧ date.isValid = true ∧ hour < 24 ∧ minute < 60 ∧
        second < 60 ∧ micro < 1000000) ∧ m.day = date.dayNumber ∧
        m.micros = ((hour * 60 + minute) * 60 + second) * microsPerSecond + micro ∧
        m.offset = offset := by
  have hmicros : ((hour * 60 + minute) * 60 + second) * microsPerSecond + micro =
      (((hour : Int).toNat * 60 + (minute : Int).toNat) * 60 + (second : Int).toNat) *
        microsPerSecond + (micro : Int).toNat := by
    simp only [Int.toNat_natCast]
  rw [hmicros, Date.isValid_iff]
  unfold ofReading
  split_ifs with hyear hmonth hday hhour hminute hsecond hmicro
  · exact iff_of_false nofun (by omega)
  · exact iff_of_false nofun (by omega)
  · simp only [Int.toNat_natCast] at hday
    exact iff_of_false nofun (by omega)
  · exact iff_of_false nofun (by omega)
  · exact iff_of_false nofun (by omega)
  · exact iff_of_false nofun (by omega)
  · exact iff_of_false nofun (by omega)
  · simp only [Int.toNat_natCast] at hday
    have hshown : 1 ≤ date.year ∧ date.year ≤ 9999 ∧ (1 ≤ date.month ∧ date.month ≤ 12 ∧
        1 ≤ date.day ∧ date.day ≤ daysInMonth date.year date.month) ∧ hour < 24 ∧ minute < 60 ∧
        second < 60 ∧ micro < 1000000 := by omega
    obtain ⟨shownDay, shownMicros, -, shownOffset⟩ := m
    rw [and_iff_right hshown, Except.ok.injEq, mk.injEq]
    exact ⟨fun h => ⟨h.1.symm, h.2.1.symm, h.2.2.symm⟩, fun h => ⟨h.1.symm, h.2.1.symm, h.2.2.symm⟩⟩

variable {date : Date} {hour minute second micro : Nat} {offset : Option Int} {m : Moment}

/-- A clock has the weekday of the date that it shows. -/
theorem weekday_ofReading
    (h : ofReading date.year date.month date.day hour minute second micro offset = .ok m) :
    m.weekday = date.weekday := by
  obtain ⟨-, hday, -⟩ := ofReading_eq_ok_iff.1 h
  rw [weekday, hday, Date.weekday]

/-- The full minutes since midnight are those of the hour and the minute that a clock shows. -/
theorem minute_ofReading
    (h : ofReading date.year date.month date.day hour minute second micro offset = .ok m) :
    m.minute = 60 * hour + minute := by
  obtain ⟨⟨-, -, -, -, -, hsecond, hmicro⟩, -, hmicros, -⟩ := ofReading_eq_ok_iff.1 h
  rw [Moment.minute, hmicros, microsPerMinute, microsPerSecond]
  omega

/-- On another date a clock shows the same time. -/
theorem exists_ofReading {date' : Date}
    (h : ofReading date.year date.month date.day hour minute second micro offset = .ok m)
    (hfirst : 1 ≤ date'.year) (hlast : date'.year ≤ 9999) (hvalid : date'.isValid = true) :
    ∃ m', ofReading date'.year date'.month date'.day hour minute second micro offset = .ok m' := by
  obtain ⟨⟨-, -, -, htime⟩, -, hmicros, hoffset⟩ := ofReading_eq_ok_iff.1 h
  exact ⟨{ m with day := date'.dayNumber },
    ofReading_eq_ok_iff.2 ⟨⟨hfirst, hlast, hvalid, htime⟩, rfl, hmicros, hoffset⟩⟩

end Moment
end Calendar

open Calendar (Date Moment)

/-! ### What the schedule looks at -/

theorem Table.inForce_congr {m m' : Moment} (hday : m.weekday = m'.weekday)
    (hminute : m.minute = m'.minute) (t : Table) : t.inForce m = t.inForce m' := by
  rw [inForce, Period.inForce_congr hday hminute, inForce]

namespace Scheduler

/-- Two moments are one to the schedule: of any periods the same is in force, and a comparison with
any schedule gives the same answer. -/
structure Coincide (m m' : Moment) : Prop where
  inForceAt : ∀ (ahead : Int) (periods : List Period),
    Period.inForceAt ahead periods (.moment m) = Period.inForceAt ahead periods (.moment m')
  deviation : ∀ (zone : Zone) (setpoint : Double) (enabled voting : Bool) (w w' : World),
    w.scheduler.schedule = w'.scheduler.schedule →
      (take (.deviation zone setpoint enabled voting (some (.moment m))) w).1 =
        (take (.deviation zone setpoint enabled voting (some (.moment m'))) w').1

theorem coincide_of_minute {m m' : Moment} (hday : m.weekday = m'.weekday)
    (hminute : m.minute = m'.minute) : Coincide m m' where
  inForceAt := fun _ periods => Period.inForceAt_congr rfl rfl hday hminute periods
  deviation := by
    intro zone setpoint enabled voting w w' hschedule
    obtain ⟨_, htake⟩ := take_deviation zone setpoint enabled voting m w
    obtain ⟨_, htake'⟩ := take_deviation zone setpoint enabled voting m' w'
    have hscheduled : scheduled? w.scheduler.schedule zone m =
        scheduled? w'.scheduler.schedule zone m' := by
      rw [scheduled?, hschedule, funext (Table.inForce_congr hday hminute), scheduled?]
    rw [htake, htake', hscheduled]

/-- **What is in force at a moment, and what a comparison answers, is a matter of the weekday, the
hour and the minute that a clock shows.**  Neither the date nor anything below the minute nor the
distance from universal time makes a difference.  So it is the same again every seven days, counted
forwards or backwards by the calendar. -/
theorem inForce_weekly :
    (∀ m m' : Moment, m.weekday = m'.weekday → m.minute = m'.minute → Coincide m m') ∧
    ∀ (date : Date) (hour minute second micro : Nat) (offset : Option Int) (m : Moment),
      Moment.ofReading date.year date.month date.day hour minute second micro offset = .ok m →
        m.weekday = date.weekday ∧ m.minute = 60 * hour + minute ∧
        ∀ weeks : Int, 1 ≤ (date.later (7 * weeks)).year → (date.later (7 * weeks)).year ≤ 9999 →
          ∃ m', Moment.ofReading (date.later (7 * weeks)).year (date.later (7 * weeks)).month
              (date.later (7 * weeks)).day hour minute second micro offset = .ok m' ∧
            Coincide m m' := by
  refine ⟨fun m m' => coincide_of_minute, ?_⟩
  intro date hour minute second micro offset m h
  have hday := Moment.weekday_ofReading h
  have hminute := Moment.minute_ofReading h
  refine ⟨hday, hminute, fun weeks hfirst hlast => ?_⟩
  obtain ⟨⟨-, -, hvalid, -⟩, -⟩ := Moment.ofReading_eq_ok_iff.1 h
  obtain ⟨m', h'⟩ := Moment.exists_ofReading h hfirst hlast (Date.dayNumber_later hvalid _).1
  refine ⟨m', h', coincide_of_minute ?_ ?_⟩
  · rw [hday, Moment.weekday_ofReading h', Date.weekday_later hvalid]
  · rw [hminute, Moment.minute_ofReading h']

/-! ### A leap day

Readings of clocks, for statements about moments in particular.
-/

namespace LeapDay

/-- The end of a minute at lunch on a leap day. -/
def lunchtime : Moment := ⟨19782, 45059999999, by decide, none⟩

/-- The same minute of the same weekday a year later, on a clock that is ahead of universal time. -/
def yearLater : Moment := ⟨20146, 45000000000, by decide, some 330⟩

theorem reads_lunchtime :
    Moment.ofReading 2024 2 29 12 30 59 999999 none = .ok lunchtime := by rfl

end LeapDay

/-- Lunch is the same a year after a leap day, and a week after it. -/
theorem inForce_after_leap_day :
    (LeapDay.lunchtime.weekday = LeapDay.yearLater.weekday ∧
      LeapDay.lunchtime.minute = LeapDay.yearLater.minute ∧
      Coincide LeapDay.lunchtime LeapDay.yearLater) ∧
    ∃ m', Moment.ofReading 2024 3 7 12 30 59 999999 none = .ok m' ∧
      Coincide LeapDay.lunchtime m' := by
  obtain ⟨hmoments, hreadings⟩ := inForce_weekly
  have hday : LeapDay.lunchtime.weekday = LeapDay.yearLater.weekday := by decide
  have hminute : LeapDay.lunchtime.minute = LeapDay.yearLater.minute := by decide
  refine ⟨⟨hday, hminute, hmoments _ _ hday hminute⟩, ?_⟩
  obtain ⟨-, -, hweeks⟩ := hreadings ⟨2024, 2, 29⟩ 12 30 59 999999 none LeapDay.lunchtime
    LeapDay.reads_lunchtime
  exact hweeks 1 (by decide) (by decide)

end Scheduler
end ZonePlan
