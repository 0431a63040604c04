/-
Periods: named daily windows of time, eligible on some days of the week.

The ends of a window are distances from midnight in milliseconds, both included.  Periods
sort by ascending start; of two that start together the one that ends later sorts first, so
that a narrower window laid over a broader one sorts behind it.
-/
import ZonePlan.Calendar.When

namespace ZonePlan

/-- The milliseconds of a day. -/
def millisPerDay : Nat := 86400000

/-- The milliseconds of a minute, the shortest window there is. -/
def millisPerMinute : Nat := 60000

/-- A named window of time on some days of the week. -/
structure Period where
  name : Text
  start : Nat
  finish : Nat
  /-- The days on which the window is eligible, bit 0 for Monday to bit 6 for Sunday. -/
  days : Nat
  name_ne : name ≠ ""
  start_add_le : start + millisPerMinute ≤ finish
  finish_le : finish ≤ millisPerDay
  days_lt : days < 256
deriving DecidableEq

namespace Period

/-! ### Making a period -/

/-- The mask of all seven days. -/
def everyDay : Nat := 0x7f

/-- The letters of the days, Monday first. -/
def dayLetters : List Char := ['M', 'T', 'W', 'T', 'F', 'S', 'S']

/-- The period of a name, two ends and a mask, or the first thing that is wrong with them. -/
def make (name : Text) (start finish days : Int) : Except Failure Period :=
  if hname : name = "" then .error .emptyName
  else if hstart : start < 0 then .error (.negativeTime .start (.whole start))
  else if millisPerDay < start then .error (.timeBeyondDay .start (.whole start))
  else if finish < 0 then .error (.negativeTime .finish (.whole finish))
  else if hfinish : millisPerDay < finish then .error (.timeBeyondDay .finish (.whole finish))
  else if hlength : finish - start < millisPerMinute then
    .error (.windowTooShort (.whole (finish - start)))
  else if hdays : days < 0 ∨ 255 < days then .error (.maskTooWide days)
  else .ok {
    name
    start := start.toNat
    finish := finish.toNat
    days := days.toNat
    name_ne := hname
    start_add_le := by omega
    finish_le := by omega
    days_lt := by omega }

/-! ### Order -/

/-- Whether one period sorts strictly before another. -/
def precedes (p q : Period) : Bool :=
  p.start < q.start || (p.start == q.start && q.finish < p.finish)

/-- How one period sorts against another. -/
def compare (p q : Period) : Ordering :=
  if p.precedes q then .lt else if q.precedes p then .gt else .eq

/-- What a period sorts by: its start, and how early it ends. -/
def sortKey (p : Period) : Int × Int := (p.start, -p.finish)

/-- Periods in order; those that sort alike stay as they are. -/
def sort (periods : List Period) : List Period :=
  periods.mergeSort fun p q => !q.precedes p

/-! ### What a period covers -/

/-- Whether the window is eligible on a weekday. -/
def onWeekday (p : Period) (weekday : Nat) : Bool := p.days.testBit weekday

/-- Whether a moment lies in the window on an eligible day. -/
def covers (p : Period) (m : Calendar.Moment) : Bool :=
  p.onWeekday m.weekday && p.start ≤ m.timeOfDay && m.timeOfDay ≤ p.finish

/-- Whether the window includes what is given: a number is a distance from midnight. -/
def includes (p : Period) : When → Except Failure Bool
  | .moment m => .ok (p.start ≤ m.timeOfDay && m.timeOfDay ≤ p.finish)
  | .count n => .ok (n.within p.start p.finish)
  | .other v => .error (.notAnOffset v.kindName)

/-- Whether the window includes the time of day of a moment. -/
def includesMoment (p : Period) (ahead : Int) (w : When) : Except Failure Bool := do
  let m ← w.toMoment ahead
  p.includes (.count (.whole m.timeOfDay))

/-- Whether the window is eligible on the day of a moment. -/
def includesDay (p : Period) (ahead : Int) (w : When) : Except Failure Bool :=
  (w.toMoment ahead).map fun m => p.onWeekday m.weekday

/-- Whether the period covers a moment: the day is asked first, and the time of day only on an
eligible day. -/
def matchesMoment (p : Period) (ahead : Int) (w : When) : Except Failure Bool := do
  if ← p.includesDay ahead w then p.includesMoment ahead w else return false

theorem includesDay_of_toMoment {ahead : Int} {w : When} {m : Calendar.Moment}
    (h : w.toMoment ahead = .ok m) (p : Period) :
    p.includesDay ahead w = .ok (p.onWeekday m.weekday) := by
  rw [includesDay, h]
  rfl

theorem includesMoment_of_toMoment {ahead : Int} {w : When} {m : Calendar.Moment}
    (h : w.toMoment ahead = .ok m) (p : Period) :
    p.includesMoment ahead w = .ok (p.start ≤ m.timeOfDay && m.timeOfDay ≤ p.finish) := by
  have hwithin : (Count.whole m.timeOfDay).within p.start p.finish =
      (p.start ≤ m.timeOfDay && m.timeOfDay ≤ p.finish : Bool) := by
    simp only [Count.within, Int.ofNat_le]
  rw [includesMoment, h, ← hwithin]
  rfl

theorem matchesMoment_of_toMoment {ahead : Int} {w : When} {m : Calendar.Moment}
    (h : w.toMoment ahead = .ok m) (p : Period) : p.matchesMoment ahead w = .ok (p.covers m) := by
  rw [matchesMoment, includesDay_of_toMoment h, includesMoment_of_toMoment h]
  rcases hday : p.onWeekday m.weekday with _ | _
  · simp [covers, hday, bind, Except.bind, pure, Except.pure]
  · simp [covers, hday, bind, Except.bind]

/-- A period can be asked about just those values that stand for a moment. -/
theorem matchesMoment_eq (p : Period) (ahead : Int) (w : When) :
    p.matchesMoment ahead w = (w.toMoment ahead).map p.covers := by
  rcases h : w.toMoment ahead with cause | m
  · rw [matchesMoment, includesDay, h]
    rfl
  · rw [matchesMoment_of_toMoment h]
    rfl

/-! ### Text -/

/-- A whole number with two digits or more. -/
def twoDigits (n : Int) : String :=
  if n < 0 then toString n else Calendar.Moment.padded 2 n.toNat

/-- A distance from midnight in hours and minutes, cut to the minute below. -/
def offsetText (offset : Int) : String :=
  twoDigits (offset / 3600000) ++ ":" ++ twoDigits (offset % 3600000 / 60000)

/-- The letters of the eligible days, a dot for each other day. -/
def daysPattern (p : Period) : String :=
  String.ofList (dayLetters.mapIdx fun i letter => if p.onWeekday i then letter else '.')

/-- The text of a period. -/
def text (p : Period) : Text :=
  p.name ++ " (" ++ offsetText p.start ++ " to " ++ offsetText p.finish ++ " on " ++
    p.daysPattern ++ ")"

end Period
end ZonePlan
