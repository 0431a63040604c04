/-
Written times of day.

A time of day may be written in six formats; two of them have a date in front, which must
be a date of the calendar and is then ignored.  The parts of a format are read from left to
right.  A part can often be read in more than one way (`12` is an hour of two digits, or
an hour of one digit with a `2` behind it), so a reader lists all ways, the preferred one
first.  A text has the format when its preferred reading leaves nothing over: a text is
refused, not read again, when something is left behind the preferred reading.
-/
import ZonePlan.Calendar.Date
import ZonePlan.Text.Digit

namespace ZonePlan.Calendar

/-! ### Readers of parts -/

/-- Every way to read a part at the front of a text, the preferred one first, each with the
characters behind it. -/
abbrev Reader (α : Type) := List Char → List (α × List Char)

namespace Reader

variable {α β : Type}

/-- One character that stands for a value. -/
def char (value? : Char → Option α) : Reader α
  | [] => []
  | c :: rest => ((value? c).map fun a => (a, rest)).toList

/-- No character at all. -/
def nothing : Reader Unit := fun s => [((), s)]

/-- One part behind another. -/
def pair (first : Reader α) (second : Reader β) : Reader (α × β) := fun s =>
  (first s).flatMap fun (a, rest) => (second rest).map fun (b, rest) => ((a, b), rest)

/-- The ways of one reader, and after them those of another. -/
def or (preferred other : Reader α) : Reader α := fun s => preferred s ++ other s

/-- The same ways with their values changed. -/
def map (f : α → β) (r : Reader α) : Reader β := fun s =>
  (r s).map fun (a, rest) => (f a, rest)

/-- What the preferred reading of a text gives, when it leaves nothing over. -/
def whole? (r : Reader α) (s : List Char) : Option α :=
  match r s with
  | (a, []) :: _ => some a
  | _ => none

/-- A given character. -/
def mark (c : Char) : Reader Unit := char fun d => if d = c then some () else none

/-- A letter of either case, given as a small letter. -/
def letter (c : Char) : Reader Unit := char fun d => if d.toLower = c then some () else none

/-- A decimal digit of any script. -/
def digit : Reader Nat := char Text.digit?

/-- An ASCII digit in a range. -/
def digitIn (low high : Nat) : Reader Nat :=
  char fun c => (Text.asciiDigit? c).filter fun d => low ≤ d && d ≤ high

/-- The number that two digits write. -/
def tens (first second : Reader Nat) : Reader Nat :=
  (pair first second).map fun (a, b) => 10 * a + b

end Reader

namespace Reader

/-- An hour of the day, with two digits if possible. -/
def hour : Reader Nat :=
  (tens (digitIn 2 2) (digitIn 0 3)).or ((tens (digitIn 0 1) digit).or digit)

/-- A minute, with two digits if possible. -/
def minute : Reader Nat := (tens (digitIn 0 5) digit).or digit

/-- A month, with two digits if possible. -/
def month : Reader Nat :=
  (tens (digitIn 1 1) (digitIn 0 2)).or ((tens (digitIn 0 0) (digitIn 1 9)).or (digitIn 1 9))

/-- A day of the month, with two digits if possible; a blank may stand for the first. -/
def day : Reader Nat :=
  (tens (digitIn 3 3) (digitIn 0 1)).or <|
    (tens (digitIn 1 2) digit).or <|
      (tens (digitIn 0 0) (digitIn 1 9)).or <|
        (digitIn 1 9).or ((pair (mark ' ') (digitIn 1 9)).map (·.2))

/-- A year of four digits. -/
def longYear : Reader Nat :=
  (pair (tens digit digit) (tens digit digit)).map fun (century, year) => 100 * century + year

/-- A year of two digits: up to 68 it lies in the years from 2000 on, else in those from 1900. -/
def shortYear : Reader Nat :=
  (tens digit digit).map fun year => if year ≤ 68 then 2000 + year else 1900 + year

/-- A date, a `T` and a time. -/
def dated (year : Reader Nat) : Reader (Date × Nat × Nat) :=
  (pair year (pair (mark '-') (pair month (pair (mark '-') (pair day (pair (letter 't')
    (pair hour (pair (mark ':') minute)))))))).map
      fun (year, _, month, _, day, _, hour, _, minute) => (⟨year, month, day⟩, hour, minute)

/-- The half of the day: whether it is the second one. -/
def half : Reader Bool :=
  (pair (((letter 'a').map fun _ => false).or ((letter 'p').map fun _ => true))
    (letter 'm')).map (·.1)

/-- A time on a dial of twelve hours, as it is written. -/
def dial (gap : Reader Unit) : Reader (Nat × Nat × Bool) :=
  (pair ((tens digit digit).or digit) (pair (mark ':') (pair (tens digit digit) (pair gap half)))).map
    fun (hour, _, minute, _, afternoon) => (hour, minute, afternoon)

end Reader

/-! ### Times of day -/

/-- A time of day to the minute. -/
structure TimeOfDay where
  hour : Nat
  minute : Nat
  hour_lt : hour < 24
  minute_lt : minute < 60
deriving DecidableEq

namespace TimeOfDay

/-- The distance from midnight in milliseconds. -/
def millis (t : TimeOfDay) : Nat := t.hour * 3600000 + t.minute * 60000

theorem millis_lt (t : TimeOfDay) : t.millis < 86400000 := by
  have := t.hour_lt
  have := t.minute_lt
  unfold millis
  omega

/-- The time of an hour and a minute. -/
def of? (hour minute : Nat) : Option TimeOfDay :=
  if h : hour < 24 ∧ minute < 60 then some ⟨hour, minute, h.1, h.2⟩ else none

/-- The time that a dial of twelve hours shows in one half of the day.  The hours 0 and 12
both start the half. -/
def ofDial? (hour minute : Nat) (afternoon : Bool) : Option TimeOfDay :=
  if hour ≤ 12 then of? (hour % 12 + if afternoon then 12 else 0) minute else none

end TimeOfDay

/-! ### The formats -/

/-- The formats of a written time of day. -/
inductive TimeFormat where
  | longDated
  | shortDated
  | spacedDial
  | dial
  | separated
  | compact
deriving DecidableEq, Repr

namespace TimeFormat

/-- The formats in the order in which they are tried. -/
def all : List TimeFormat := [.longDated, .shortDated, .spacedDial, .dial, .separated, .compact]

/-- How messages show a format. -/
def pattern : TimeFormat → String
  | .longDated => "%Y-%m-%dT%H:%M"
  | .shortDated => "%y-%m-%dT%H:%M"
  | .spacedDial => "%I:%M %p"
  | .dial => "%I:%M%p"
  | .separated => "%H:%M"
  | .compact => "%H%M"

/-- The time of a date and a time, if the date exists. -/
def onDate : Date × Nat × Nat → Option TimeOfDay
  | (date, hour, minute) =>
    if 1 ≤ date.year && date.isValid then TimeOfDay.of? hour minute else none

/-- The time that a text without blanks around it writes in a format. -/
def read? (format : TimeFormat) (s : List Char) : Option TimeOfDay :=
  match format with
  | .longDated => ((Reader.dated .longYear).whole? s).bind onDate
  | .shortDated => ((Reader.dated .shortYear).whole? s).bind onDate
  | .spacedDial =>
    ((Reader.dial (.mark ' ')).whole? s).bind fun (hour, minute, afternoon) =>
      TimeOfDay.ofDial? hour minute afternoon
  | .dial =>
    ((Reader.dial .nothing).whole? s).bind fun (hour, minute, afternoon) =>
      TimeOfDay.ofDial? hour minute afternoon
  | .separated =>
    ((Reader.pair .hour (Reader.pair (.mark ':') .minute)).whole? s).bind fun (hour, _, minute) =>
      TimeOfDay.of? hour minute
  | .compact =>
    ((Reader.pair .hour .minute).whole? s).bind fun (hour, minute) => TimeOfDay.of? hour minute

end TimeFormat

/-- The time of the first of the formats in which a text without blanks around it is
written. -/
def TimeOfDay.read? (formats : List TimeFormat) (s : List Char) : Option TimeOfDay :=
  formats.findSome? fun format => format.read? s

end ZonePlan.Calendar
