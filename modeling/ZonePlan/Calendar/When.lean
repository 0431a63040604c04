/-
When: a moment, or a number that stands for one.

A number counts milliseconds since the start of 1970 in universal time.  It is first
divided into seconds as a double, then rounded to microseconds, a half going to the even
one, and then shown on a local clock that is a fixed number of minutes ahead of universal
time.  A local clock shows the years 1 to 9999; because the reading of the day before is
taken as well, the first day of year 1 is out of range too.
-/
import ZonePlan.Failure
import ZonePlan.Json.Display

namespace ZonePlan

namespace Calendar

/-- A number of seconds in whole microseconds.  The fraction of a second is scaled as a
double before it is rounded. -/
def microsOfSeconds (x : FiniteDouble) : Int :=
  let scaled := significant (x.units % Double.unitsPerOne * microsPerSecond) 1
  let size : Int := x.units / Double.unitsPerOne * microsPerSecond +
    Rounding.halfEven scaled Double.unitsPerOne
  if x.negative then -size else size

/-- The limit of the seconds that the system counts, in 64 bits. -/
def secondsLimit : Int := Number.pow2 63

/-- The microseconds since the start of 1970 of a number of milliseconds. -/
def microsOfCount (n : Count) : Except Failure Int :=
  match n.seconds with
  | .nan => .error .momentNotANumber
  | .infinite _ => .error .outOfRange
  | .finite x =>
    let micros := microsOfSeconds x
    let seconds := micros / microsPerSecond
    if seconds < -secondsLimit ∨ secondsLimit ≤ seconds then .error .outOfRange else .ok micros

/-- The limit of the years from 1900 on that the system's calendar counts, in 32 bits. -/
def yearLimit : Nat := Number.pow2 31

/-- The year of a day as the system's calendar gives it. -/
def systemYear (day : Int) : Except Failure Int :=
  let year := (dateOfDay day).year
  if year - 1900 < -yearLimit ∨ yearLimit ≤ year - 1900 then .error .yearTooLarge
  else .ok (year.bmod (2 * yearLimit))

/-- Checks that a local clock can show a day. -/
def checkYear (day : Int) : Except Failure Unit := do
  let year ← systemYear day
  if year < 1 ∨ 9999 < year then throw (.badReading (.year year))

/-- The moment on a local clock, `ahead` minutes ahead of universal time, of a number of
milliseconds since the start of 1970. -/
def localMoment (ahead : Int) (n : Count) : Except Failure Moment := do
  let micros ← microsOfCount n
  let moment := Moment.ofMicros (micros + ahead * microsPerMinute)
  checkYear moment.day
  checkYear (moment.day - 1)
  return moment

end Calendar

/-! ### Readings -/

namespace Calendar

/-- The limit of the parts of a reading, in 32 bits. -/
def partLimit : Int := Number.pow2 31

/-- The limit of the days that a distance from universal time can be given in at all. -/
def daysLimit : Nat := 999999999

/-- Checks that a clock can be a number of minutes ahead of universal time. -/
def checkOffset (minutes : Int) : Except Failure Unit :=
  if daysLimit < (minutes / (minutesPerDay : Int)).natAbs then .error .outOfRange
  else if minutesPerDay ≤ minutes.natAbs then .error (.badReading (.offset minutes))
  else .ok ()

/-- The whole number that a part of a reading gives; a truth value counts as 0 or 1. -/
def readPart : Json.Value → Except Failure Int
  | .int n => if n < -partLimit ∨ partLimit ≤ n then .error .outOfRange else .ok n
  | .bool b => .ok (if b then 1 else 0)
  | v => .error (.notAnInteger v.kindName)

/-- The moment of a reading by its parts: year, month, day, and then as many of hour, minute,
second and microsecond as are given, on a clock that is perhaps a known number of minutes
ahead of universal time. -/
def readMoment (parts : List Json.Value) (offset : Option Int) : Except Failure Moment := do
  if let some minutes := offset then checkOffset minutes
  let parts ← parts.mapM readPart
  let part (i : Nat) : Int := parts.getD i 0
  (Moment.ofReading (part 0) (part 1) (part 2) (part 3) (part 4) (part 5) (part 6) offset).mapError
    .badReading

end Calendar

/-- What is given for a moment. -/
inductive When where
  | moment (m : Calendar.Moment)
  | count (n : Count)
  /-- A value that stands for no moment. -/
  | other (v : Json.Value)

namespace When

/-- The moment meant, on the local clock. -/
def toMoment (ahead : Int) : When → Except Failure Calendar.Moment
  | .moment m => .ok m
  | .count n => Calendar.localMoment ahead n
  | .other v => .error (.notAMoment v.kindName)

/-- Whether a value is given at all: zero, an empty text, an empty collection, nothing and
the untruth count as not given. -/
def isGiven : When → Bool
  | .moment _ => true
  | .count n => !n.isZero
  | .other .null => false
  | .other (.bool b) => b
  | .other (.text t) => !t.codes.isEmpty
  | .other (.array items) => !items.isEmpty
  | .other (.object fields) => !fields.isEmpty
  | .other _ => true

/-- The text of what is given. -/
def text : When → Text
  | .moment m => m.text
  | .count n => n.text
  | .other v => v.shown

end When
end ZonePlan
