/-
Periods written down.

A period may be given by its name, two times of day and a pattern of days.  The pattern has
one character per day, Monday first: a space or a dot clears the day and any other
character sets it, so that the pattern of a period reads back to its mask.
-/
import ZonePlan.Journal.Logged
import ZonePlan.Text.Blank

namespace ZonePlan

/-! ### Times of day -/

/-- The notes on the formats in which a text is not written, up to the first in which it is. -/
def rejections (formats : List Calendar.TimeFormat) (v : Json.Value) (s : List Char) :
    List WorkNote :=
  (formats.takeWhile fun format => (format.read? s).isNone).map (.notInFormat v.shown)

/-- The characters of a written time without the blanks around it; what does not consist of
characters writes nothing. -/
def writtenTime : Json.Value → List Char
  | .text t => (t.strip.chars?).getD []
  | _ => []

/-- The time of day that a value writes in the first of the formats that fits. -/
def readTime (v : Json.Value) : Logged Calendar.TimeOfDay := do
  let formats := Calendar.TimeFormat.all
  let s := writtenTime v
  Logged.noteAll (rejections formats v s)
  match Calendar.TimeOfDay.read? formats s with
  | some time => return time
  | none => Logged.fail (.unreadableTime v.shown)

/-! ### Days -/

/-- Whether a character of a day pattern clears its day. -/
def clearsDay (code : Nat) : Bool := code == ' '.toNat || code == '.'.toNat

/-- The mask of a day pattern, its first character being the lowest bit. -/
def maskOf : List Nat → Nat
  | [] => 0
  | code :: rest => (if clearsDay code then 0 else 1) + 2 * maskOf rest

theorem maskOf_lt (codes : List Nat) : maskOf codes < Number.pow2 codes.length := by
  induction codes with
  | nil => decide
  | cons code rest ih =>
    rw [maskOf, List.length_cons, Number.pow2_succ]
    split <;> omega

/-- The mask that a value writes. -/
def readDays : Json.Value → Except Failure Nat
  | .text t => if t.length = 7 then .ok (maskOf t.codes) else .error (.badDays t.quoted)
  | v => .error (.badDays v.notated)

/-! ### Periods -/

namespace Period

/-- The name that a value gives. -/
def readName : Json.Value → Except Failure Text
  | .text t => if t = "" then .error .emptyName else .ok t
  | _ => .error .emptyName

/-- The end of a window that a value gives; a truth value counts as 0 or 1. -/
def readBound (bound : Bound) (v : Json.Value) : Except Failure Count := do
  let offset ← match v with
    | .int n => .ok (.whole n)
    | .bool b => .ok (.whole (if b then 1 else 0))
    | .float x => .ok (.double x)
    | v => .error (.timeNotComparable v.kindName)
  if offset.isBelow 0 then throw (.negativeTime bound offset)
  if offset.isAbove millisPerDay then throw (.timeBeyondDay bound offset)
  return offset

/-- The hours and minutes of a distance from midnight that a value gives. -/
def readOffsetText : Json.Value → Except Failure String
  | .int n => .ok (offsetText n)
  | .bool b => .ok (offsetText (if b then 1 else 0))
  | .float _ => .error .timeNotWhole
  | v => .error (.timeNotDivisible v.kindName)

/-- A mask that has eight bits. -/
def checkMask (days : Int) : Except Failure Int :=
  if days < 0 ∨ 255 < days then .error (.maskTooWide days) else .ok days

/-- The mask that a value gives as a number; a truth value counts as 0 or 1. -/
def readMask : Json.Value → Except Failure Int
  | .int n => checkMask n
  | .bool b => .ok (if b then 1 else 0)
  | .float x => .error (if x.within 0 255 then .maskNotWhole else .wideMaskNotWhole)
  | v => .error (.maskNotComparable v.kindName)

/-- The period of a name, two distances from midnight and a mask.  There are no periods here whose
ends are doubles: such ends are refused, after everything else, by the failure of showing them. -/
def ofValues (name start finish days : Json.Value) : Except Failure Period := do
  let name ← readName name
  let start ← readBound .start start
  let finish ← readBound .finish finish
  let duration := finish.sub start
  if duration.isBelow millisPerMinute then throw (.windowTooShort duration)
  let days ← readMask days
  match start, finish with
  | .whole start, .whole finish => make name start finish days
  | _, _ => throw .timeNotWhole

/-- The period of a written name, two written times and a pattern of days. -/
def parse (name start finish days : Json.Value) : Logged Period := do
  let name ← Logged.ofExcept (readName name)
  let start ← readTime start
  let finish ← readTime finish
  let days ← Logged.ofExcept (readDays days)
  Logged.ofExcept (make name start.millis finish.millis days)

/-- The pattern of all days. -/
def everyDayPattern : Json.Value := .str "MTWTFSS"

end Period
end ZonePlan
