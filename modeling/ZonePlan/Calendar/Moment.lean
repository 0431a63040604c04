/-
Moments on a wall clock.

A moment is a day and a time of that day to the microsecond, as a clock on the wall shows
them, perhaps with the distance of that clock from universal time.  The schedule looks at
the weekday and at the minute only, so the distance never changes what is in force; it is
kept because messages show it.
-/
import ZonePlan.Calendar.Date

namespace ZonePlan.Calendar

/-- The microseconds of a second. -/
def microsPerSecond : Nat := 1000000

/-- The microseconds of a minute. -/
def microsPerMinute : Nat := 60 * microsPerSecond

/-- The microseconds of a day. -/
def microsPerDay : Nat := 1440 * microsPerMinute

/-- A reading of a wall clock. -/
structure Moment where
  /-- Days since 1970-01-01. -/
  day : Int
  /-- Microseconds since midnight. -/
  micros : Nat
  micros_lt : micros < microsPerDay
  /-- Minutes that the clock is ahead of universal time, where that is known. -/
  offset : Option Int
deriving DecidableEq

/-- A part of a reading that a wall clock cannot show. -/
inductive BadReading where
  | year (value : Int)
  | month
  | day
  | hour
  | minute
  | second
  | microsecond
  /-- A distance from universal time of a day or more. -/
  | offset (minutes : Int)
deriving DecidableEq, Repr

/-- The minutes of a day. -/
def minutesPerDay : Nat := 1440

/-- A number of minutes in days and seconds, those that are zero left off. -/
def spanText (minutes : Int) : String :=
  let days := minutes / minutesPerDay
  let seconds := minutes % minutesPerDay * 60
  ", ".intercalate ((if days = 0 then [] else ["days=" ++ toString days]) ++
    if seconds = 0 then [] else ["seconds=" ++ toString seconds])

/-- The wording of a bad part. -/
def BadReading.text : BadReading → String
  | .year value => "year " ++ toString value ++ " is out of range"
  | .month => "month must be in 1..12"
  | .day => "day is out of range for month"
  | .hour => "hour must be in 0..23"
  | .minute => "minute must be in 0..59"
  | .second => "second must be in 0..59"
  | .microsecond => "microsecond must be in 0..999999"
  | .offset minutes =>
    "offset must be a timedelta strictly between -timedelta(hours=24) and timedelta(hours=24), " ++
      "not datetime.timedelta(" ++ spanText minutes ++ ")."

namespace Moment

/-- The moment of a date and a time, or the first part that is out of range. -/
def ofReading (year month day hour minute second micro : Int) (offset : Option Int) :
    Except BadReading Moment :=
  if year < 1 ∨ 9999 < year then .error (.year year)
  else if month < 1 ∨ 12 < month then .error .month
  else if day < 1 ∨ daysInMonth year month.toNat < day then .error .day
  else if hhour : hour < 0 ∨ 23 < hour then .error .hour
  else if hminute : minute < 0 ∨ 59 < minute then .error .minute
  else if hsecond : second < 0 ∨ 59 < second then .error .second
  else if hmicro : micro < 0 ∨ 999999 < micro then .error .microsecond
  else .ok {
    day := Date.dayNumber ⟨year, month.toNat, day.toNat⟩
    micros := ((hour.toNat * 60 + minute.toNat) * 60 + second.toNat) * microsPerSecond + micro.toNat
    micros_lt := by unfold microsPerDay microsPerMinute microsPerSecond; omega
    offset }

/-- The moment a number of microseconds after 1970-01-01 on the same clock. -/
def ofMicros (micros : Int) : Moment :=
  { day := micros / microsPerDay
    micros := (micros % microsPerDay).toNat
    micros_lt := by unfold microsPerDay microsPerMinute microsPerSecond; omega
    offset := none }

/-- The weekday, Monday being 0. -/
def weekday (m : Moment) : Nat := Calendar.weekday m.day

/-- The full minutes since midnight. -/
def minute (m : Moment) : Nat := m.micros / microsPerMinute

/-- The distance from midnight in milliseconds, cut to the minute. -/
def timeOfDay (m : Moment) : Nat := m.minute * 60000

/-! ### Text -/

/-- A number padded with zeros on the left. -/
def padded (width n : Nat) : String :=
  let digits := Nat.toDigits 10 n
  String.ofList (List.replicate (width - digits.length) '0' ++ digits)

/-- The distance from universal time: sign, hours and minutes. -/
def offsetText (offset : Int) : String :=
  (if offset < 0 then "-" else "+") ++ padded 2 (offset.natAbs / 60) ++ ":" ++
    padded 2 (offset.natAbs % 60)

/-- Date and time to the second. -/
def clockText (m : Moment) : String :=
  let date := dateOfDay m.day
  let seconds := m.micros / microsPerSecond
  padded 4 date.year.toNat ++ "-" ++ padded 2 date.month ++ "-" ++ padded 2 date.day ++ " " ++
    padded 2 (seconds / 3600) ++ ":" ++ padded 2 (seconds / 60 % 60) ++ ":" ++
    padded 2 (seconds % 60)

/-- The text of a moment; microseconds are shown when there are any. -/
def text (m : Moment) : String :=
  let micro := m.micros % microsPerSecond
  m.clockText ++ (if micro = 0 then "" else "." ++ padded 6 micro) ++
    (m.offset.map offsetText).getD ""

end Moment
end ZonePlan.Calendar
