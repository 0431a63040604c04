/-
Periods at a number of milliseconds.

A number of milliseconds since the start of 1970 is turned into a moment by way of doubles.  What a
period looks at comes out as whole numbers give it, so that the periods cannot tell the number from
the exact moment that it stands for.
-/
import ZonePlan.Proofs.Calendar.LocalMoment
import ZonePlan.Proofs.Period.InForce

namespace ZonePlan

open Calendar (Moment dateOfDay localMillis localMoment)

namespace Calendar

/-- The moment of a number of milliseconds, with nothing rounded, on a clock that is some minutes
ahead of universal time. -/
def exactMoment (ahead millis : Int) : Moment := Moment.ofMicros (1000 * localMillis ahead millis)

theorem day_exactMoment (ahead millis : Int) :
    (exactMoment ahead millis).day = localMillis ahead millis / 86400000 := by
  rw [exactMoment, Moment.day_ofMicros, microsPerMinute, microsPerSecond, minutesPerDay]
  omega

theorem minute_exactMoment (ahead millis : Int) :
    ((exactMoment ahead millis).minute : Int) = localMillis ahead millis / 60000 % 1440 := by
  rw [exactMoment, Moment.minute_ofMicros, microsPerMinute, microsPerSecond, minutesPerDay]
  omega

end Calendar

namespace Period

variable {m : Moment} {ahead millis : Int}

/-- A period cannot tell two values that stand for moments of one weekday and one minute. -/
theorem matchesMoment_congr {m' : Moment} {w w' : When} (hw : w.toMoment ahead = .ok m)
    (hw' : w'.toMoment ahead = .ok m') (hday : m.weekday = m'.weekday)
    (hminute : m.minute = m'.minute) (p : Period) :
    p.includesMoment ahead w = p.includesMoment ahead w' ∧
      p.includesDay ahead w = p.includesDay ahead w' ∧
      p.matchesMoment ahead w = p.matchesMoment ahead w' := by
  have htime : m.timeOfDay = m'.timeOfDay := by
    rw [Moment.timeOfDay, hminute, Moment.timeOfDay]
  refine ⟨?_, ?_, ?_⟩
  · rw [includesMoment_of_toMoment hw, includesMoment_of_toMoment hw', htime]
  · rw [includesDay_of_toMoment hw, includesDay_of_toMoment hw', hday]
  · rw [matchesMoment_of_toMoment hw, matchesMoment_of_toMoment hw', covers_congr hday hminute]

/-- What a period answers about a value that stands for a moment, by the weekday and the time of day
of the moment. -/
theorem answers_of_toMoment {w : When} (hw : w.toMoment ahead = .ok m) {weekday time : Int}
    (hday : (m.weekday : Int) = weekday) (htime : (m.timeOfDay : Int) = time) (p : Period) :
    p.includesDay ahead w = .ok (p.days.testBit weekday.toNat) ∧
      p.includesMoment ahead w = .ok (decide (p.start ≤ time ∧ time ≤ p.finish)) ∧
      p.matchesMoment ahead w =
        .ok (p.days.testBit weekday.toNat && decide (p.start ≤ time ∧ time ≤ p.finish)) := by
  have hbit : p.onWeekday m.weekday = p.days.testBit weekday.toNat := by
    rw [onWeekday, ← hday, Int.toNat_natCast]
  have hwindow : (p.start ≤ m.timeOfDay && m.timeOfDay ≤ p.finish : Bool) =
      decide (p.start ≤ time ∧ time ≤ p.finish) := by
    rw [← htime, Bool.decide_and]
    simp only [Int.ofNat_le]
  refine ⟨?_, ?_, ?_⟩
  · rw [includesDay_of_toMoment hw, hbit]
  · rw [includesMoment_of_toMoment hw, hwindow]
  · rw [matchesMoment_of_toMoment hw, covers, Bool.and_assoc, hbit, hwindow]

/-- **To the periods a whole number of milliseconds is the moment that it stands for**, on every day
of the years 2 to 9999, before 1970 as well.  The time of day that is compared with their windows,
cut to the minute, and the weekday that is looked up in their masks are those of the exact number of
milliseconds.  The clock may be ahead of universal time, or behind, by more minutes than any clock
is. -/
theorem inForceAt_millis (hahead : ahead.natAbs ≤ 10 ^ 10)
    (hfirst : 2 ≤ (dateOfDay (localMillis ahead millis / 86400000)).year)
    (hlast : (dateOfDay (localMillis ahead millis / 86400000)).year ≤ 9999) :
    (∃ m, localMoment ahead (.whole millis) = .ok m ∧
      (m.timeOfDay : Int) = localMillis ahead millis % 86400000 - localMillis ahead millis % 60000 ∧
      (m.weekday : Int) = (localMillis ahead millis / 86400000 + 3) % 7) ∧
    (∀ p : Period,
      p.includesDay ahead (.count (.whole millis)) =
        .ok (p.days.testBit ((localMillis ahead millis / 86400000 + 3) % 7).toNat) ∧
      p.includesMoment ahead (.count (.whole millis)) =
        .ok (decide
          (p.start ≤ localMillis ahead millis % 86400000 - localMillis ahead millis % 60000 ∧
            localMillis ahead millis % 86400000 - localMillis ahead millis % 60000 ≤ p.finish)) ∧
      p.matchesMoment ahead (.count (.whole millis)) =
        .ok (p.days.testBit ((localMillis ahead millis / 86400000 + 3) % 7).toNat &&
          decide (p.start ≤ localMillis ahead millis % 86400000 - localMillis ahead millis % 60000 ∧
            localMillis ahead millis % 86400000 - localMillis ahead millis % 60000 ≤ p.finish))) ∧
    (∀ p : Period,
      p.includesMoment ahead (.count (.whole millis)) =
        p.includesMoment ahead (.moment (Calendar.exactMoment ahead millis)) ∧
      p.includesDay ahead (.count (.whole millis)) =
        p.includesDay ahead (.moment (Calendar.exactMoment ahead millis)) ∧
      p.matchesMoment ahead (.count (.whole millis)) =
        p.matchesMoment ahead (.moment (Calendar.exactMoment ahead millis))) ∧
    ∀ periods : List Period, inForceAt ahead periods (.count (.whole millis)) =
      inForceAt ahead periods (.moment (Calendar.exactMoment ahead millis)) := by
  obtain ⟨m, hm, hday, hminute⟩ := Calendar.localMoment_whole hahead hfirst hlast
  have htime : (m.timeOfDay : Int) =
      localMillis ahead millis % 86400000 - localMillis ahead millis % 60000 := by
    unfold Moment.timeOfDay
    omega
  have hmask : (m.weekday : Int) = (localMillis ahead millis / 86400000 + 3) % 7 := by
    unfold Moment.weekday Calendar.weekday
    omega
  have hweekday : m.weekday = (Calendar.exactMoment ahead millis).weekday := by
    rw [Moment.weekday, hday, Moment.weekday, Calendar.day_exactMoment]
  have hsame : m.minute = (Calendar.exactMoment ahead millis).minute := by
    have hexact := Calendar.minute_exactMoment ahead millis
    omega
  have hcount : When.toMoment ahead (.count (.whole millis)) = .ok m := hm
  exact ⟨⟨m, hm, htime, hmask⟩, answers_of_toMoment hcount hmask htime,
    matchesMoment_congr hcount rfl hweekday hsame, inForceAt_congr hcount rfl hweekday hsame⟩

/-- The last millisecond before 1970 lies on a Wednesday by universal time.  It is still before
lunch on a clock that is twelve hours ahead, and lies in the first minute of lunch on one that is a
minute further ahead. -/
theorem inForceAt_last_millisecond :
    Lunch.lunch.includesDay 0 (.count (.whole (-1))) = .ok (Lunch.lunch.days.testBit 2) ∧
      inForceAt 720 [Lunch.lunch, Lunch.siesta] (.count (.whole (-1))) = .ok none ∧
      inForceAt 721 [Lunch.lunch, Lunch.siesta] (.count (.whole (-1))) =
        .ok (some Lunch.siesta) := by
  obtain ⟨-, hanswers, -, -⟩ := @inForceAt_millis 0 (-1) (by decide) (by decide) (by decide)
  obtain ⟨-, -, -, hbefore⟩ := @inForceAt_millis 720 (-1) (by decide) (by decide) (by decide)
  obtain ⟨-, -, -, hlunch⟩ := @inForceAt_millis 721 (-1) (by decide) (by decide) (by decide)
  rw [(hanswers Lunch.lunch).1, hbefore, hlunch]
  exact ⟨rfl, rfl, rfl⟩

end Period
end ZonePlan
