/-
What reading a written period comes to.

A written period is read part by part, and then made into a period by the same checks as any
other.  Most of these have nothing left to find: a time of day that was read lies within the day,
and the mask of seven days has seven bits.  What remains is that the window starts before it ends.
Since times of day are full minutes, it then lasts for a minute at least (`make_of_times`).
-/
import ZonePlan.Period.Parse

namespace ZonePlan

open Calendar (TimeOfDay TimeFormat)

/-- The time of day that a value writes in the first that fits of some formats, which are tried in
their order. -/
def readTimeIn (formats : List TimeFormat) (v : Json.Value) : Logged TimeOfDay := do
  let s := writtenTime v
  Logged.noteAll (rejections formats v s)
  match TimeOfDay.read? formats s with
  | some time => return time
  | none => Logged.fail (.unreadableTime v.shown)

theorem readTimeIn_all (v : Json.Value) : readTimeIn TimeFormat.all v = readTime v := rfl

theorem result_readTimeIn (formats : List TimeFormat) (v : Json.Value) :
    (readTimeIn formats v).result = match TimeOfDay.read? formats (writtenTime v) with
      | some time => .ok time
      | none => .error (.unreadableTime v.shown) := by
  unfold readTimeIn
  rw [Logged.result_bind, Logged.result_noteAll]
  simp only [Except.bind]
  cases TimeOfDay.read? formats (writtenTime v) <;> rfl

/-- The time of day that a text writes, if it writes one. -/
def timeOf? (s : Text) : Option TimeOfDay :=
  TimeOfDay.read? TimeFormat.all (writtenTime (.text s))

theorem result_readTime (s : Text) : (readTime (.text s)).result =
    match timeOf? s with
    | some time => .ok time
    | none => .error (.unreadableTime s) := by
  rw [← readTimeIn_all, result_readTimeIn, timeOf?]
  cases TimeOfDay.read? TimeFormat.all (writtenTime (.text s)) <;> rfl

theorem readTime_eq_ok_iff {s : Text} {time : TimeOfDay} :
    (readTime (.text s)).result = .ok time ↔ timeOf? s = some time := by
  rw [result_readTime]
  cases timeOf? s with
  | none => simp
  | some found => simp

namespace Period

theorem readName_text {name : Text} (h : name ≠ "") : readName (.text name) = .ok name :=
  if_neg h

theorem readDays_text {days : Text} (h : days.length = 7) :
    readDays (.text days) = .ok (maskOf days.codes) := if_pos h

/-- A mask of seven days has seven bits. -/
theorem maskOf_lt_of_length {days : Text} (h : days.length = 7) : maskOf days.codes < 128 := by
  have hlt := maskOf_lt days.codes
  rw [show days.codes.length = 7 from h] at hlt
  exact hlt

/-- Of two times of day and a mask nothing can be wrong but that the first is not the earlier
one. -/
theorem make_of_times {name : Text} (hname : name ≠ "") (start finish : TimeOfDay) {mask : Nat}
    (hmask : mask < 256) :
    (start.millis < finish.millis → ∃ p, make name start.millis finish.millis mask = .ok p) ∧
      (¬start.millis < finish.millis → make name start.millis finish.millis mask =
        .error (.windowTooShort (.whole (finish.millis - start.millis)))) := by
  have hstart := start.millis_lt
  have hfinish := finish.millis_lt
  have hminute : (finish.millis : Int) - start.millis < millisPerMinute ↔
      ¬start.millis < finish.millis := by
    unfold TimeOfDay.millis millisPerMinute
    omega
  unfold make
  rw [dif_neg hname, dif_neg (by omega), if_neg (by unfold millisPerDay; omega),
    if_neg (by omega), dif_neg (by unfold millisPerDay; omega)]
  constructor
  · intro hlt
    rw [dif_neg fun h => hminute.1 h hlt, dif_neg (by omega)]
    exact ⟨_, rfl⟩
  · intro hnot
    rw [dif_pos (hminute.2 hnot)]

/-- A written period with a name and a pattern of seven days is read by its times alone. -/
theorem result_parse {name start finish days : Text} (hname : name ≠ "")
    (hdays : days.length = 7) :
    (parse (.text name) (.text start) (.text finish) (.text days)).result =
      (readTime (.text start)).result.bind fun a => (readTime (.text finish)).result.bind fun b =>
        make name a.millis b.millis (maskOf days.codes) := by
  simp only [parse, Logged.result_bind, Logged.result_ofExcept, readName_text hname,
    readDays_text hdays, Except.bind]

end Period
end ZonePlan
