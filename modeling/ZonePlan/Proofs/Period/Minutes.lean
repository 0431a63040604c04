/-
The minutes of a day that a period covers.

A moment is cut to the minute before it is compared with a window, and both ends of a window count.
So a window holds the minutes that begin in it, from the first that begins at its start or later to
the last that begins by its end (`holds_iff`).  The ends may be any milliseconds, and the last one
may be 24:00, where no minute of the day begins.

That there is always such a minute (`exists_holds`) takes both bounds on a window: it lasts a minute
at least, so that a minute begins in it, and it ends by 24:00, so that this may be taken to be one
before 24:00.
-/
import Mathlib
import ZonePlan.Proofs.Period.Written

namespace ZonePlan

open Calendar (Moment)

namespace Calendar.Moment

/-- The moment of a day at which a minute begins. -/
def ofMinute (day : Int) (n : Nat) (h : n < minutesPerDay) : Moment where
  day := day
  micros := n * microsPerMinute
  micros_lt := Nat.mul_lt_mul_of_pos_right h (by decide)
  offset := none

theorem minute_ofMinute {day : Int} {n : Nat} (h : n < minutesPerDay) :
    (ofMinute day n h).minute = n := Nat.mul_div_cancel n (by decide)

end Calendar.Moment

namespace Period

/-- Whether the window holds the beginning of a minute of the day. -/
def Holds (p : Period) (n : Nat) : Prop :=
  p.start ≤ n * millisPerMinute ∧ n * millisPerMinute ≤ p.finish

/-- A window holds the minutes from its start, rounded up, to its end, rounded down. -/
theorem holds_iff {p : Period} {n : Nat} :
    p.Holds n ↔ ⌈((p.start : Int) / 60000 : ℚ)⌉ ≤ n ∧ n ≤ ⌊((p.finish : Int) / 60000 : ℚ)⌋ := by
  have hpos : (0 : ℚ) < 60000 := by norm_num
  rw [Int.ceil_le, Int.le_floor, div_le_iff₀ hpos, le_div_iff₀ hpos]
  unfold Holds millisPerMinute
  norm_cast

theorem exists_holds (p : Period) : ∃ n < Calendar.minutesPerDay, p.Holds n := by
  have hlength := p.start_add_le
  have hfinish := p.finish_le
  -- The first minute to begin in the window.
  refine ⟨(p.start + 59999) / 60000, ?_⟩
  unfold Holds Calendar.minutesPerDay
  unfold millisPerMinute at hlength ⊢
  unfold millisPerDay at hfinish
  omega

theorem covers_iff {p : Period} {m : Moment} :
    p.covers m = true ↔ p.onWeekday m.weekday = true ∧ p.Holds m.minute := by
  simp only [covers, Bool.and_eq_true, decide_eq_true_eq, and_assoc]
  rfl

/-- On each of its days a period covers the whole of some minute. -/
theorem exists_covers {p : Period} {day : Int} (h : p.onWeekday (Calendar.weekday day) = true) :
    ∃ m : Moment, m.day = day ∧ ∀ m' : Moment, m'.day = m.day → m'.minute = m.minute →
      p.covers m' = true := by
  obtain ⟨n, hn, hholds⟩ := p.exists_holds
  refine ⟨Moment.ofMinute day n hn, rfl, ?_⟩
  intro m' hday hminute
  rw [covers_iff, Moment.weekday, hday, hminute, Moment.minute_ofMinute]
  exact ⟨h, hholds⟩

/-- **A period matches a moment just if its mask has the weekday and the minute of the day lies
between its start, rounded up, and its end, rounded down.**  There is always such a minute between
00:00 and 23:59, so that on each day that its mask has, a period matches during a minute at least. -/
theorem matches_by_minute {name : Text} {start finish days : Int} {p : Period}
    (h : make name start finish days = .ok p) :
    (∀ (ahead : Int) (m : Moment), p.matchesMoment ahead (.moment m) =
      .ok (decide (days.testBit m.weekday = true ∧ ⌈(start / 60000 : ℚ)⌉ ≤ m.minute ∧
        m.minute ≤ ⌊(finish / 60000 : ℚ)⌋))) ∧
    (∃ n : Nat, n ≤ 1439 ∧ ⌈(start / 60000 : ℚ)⌉ ≤ n ∧ n ≤ ⌊(finish / 60000 : ℚ)⌋) ∧
    ∀ day : Int, days.testBit (Calendar.weekday day) = true →
      ∃ m : Moment, m.day = day ∧ ∀ m' : Moment, m'.day = m.day → m'.minute = m.minute →
        ∀ ahead : Int, p.matchesMoment ahead (.moment m') = .ok true := by
  obtain ⟨-, rfl, rfl, rfl⟩ := make_eq_ok_iff.1 h
  refine ⟨?_, ?_, ?_⟩
  · intro ahead m
    rw [matchesMoment_of_toMoment rfl]
    congr 1
    rw [Bool.eq_iff_iff, decide_eq_true_iff, covers_iff, holds_iff]
    rfl
  · obtain ⟨n, hn, hheld⟩ := p.exists_holds
    exact ⟨n, Nat.le_of_lt_succ hn, holds_iff.1 hheld⟩
  · intro day hday
    obtain ⟨m, hm, hcovers⟩ := p.exists_covers hday
    refine ⟨m, hm, ?_⟩
    intro m' hday' hminute ahead
    rw [matchesMoment_of_toMoment rfl, hcovers m' hday' hminute]

/-- A window of little more than a minute, on Sundays, covers the last minute of the day and no
other. -/
theorem matches_of_blink :
    ∃ p, make "blink" 86339001 86399001 0xc0 = .ok p ∧
      (∀ m : Moment, p.matchesMoment 0 (.moment m) =
        .ok (decide (m.weekday = 6 ∧ m.minute = 1439))) ∧
      ∃ m : Moment, m.day = 3 ∧ p.matchesMoment 0 (.moment m) = .ok true := by
  obtain ⟨p, hp⟩ : ∃ p, make "blink" 86339001 86399001 0xc0 = .ok p := ⟨_, rfl⟩
  obtain ⟨hmatch, -, hday⟩ := matches_by_minute hp
  refine ⟨p, hp, ?_, ?_⟩
  · intro m
    have hfirst : ⌈((86339001 : Int) / 60000 : ℚ)⌉ = 1439 := by norm_num [Int.ceil_eq_iff]
    have hlast : ⌊((86399001 : Int) / 60000 : ℚ)⌋ = 1439 := by norm_num [Int.floor_eq_iff]
    have hweekday : Int.testBit 0xc0 m.weekday = true ↔ m.weekday = 6 := by
      have hlt := Calendar.weekday_lt m.day
      unfold Moment.weekday
      generalize Calendar.weekday m.day = weekday at hlt ⊢
      interval_cases weekday <;> decide
    rw [hmatch, hfirst, hlast]
    congr 1
    rw [decide_eq_decide, hweekday]
    omega
  · obtain ⟨m, hm, hcovers⟩ := hday 3 (by decide)
    exact ⟨m, hm, hcovers m rfl rfl 0⟩

/-- A millisecond less than a minute may hold no minute before 24:00. -/
example : make "blink" 86340001 86400000 everyDay = .error (.windowTooShort (.whole 59999)) := rfl

end Period
end ZonePlan
