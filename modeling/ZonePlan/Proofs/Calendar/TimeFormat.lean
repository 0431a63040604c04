/-
What the formats of a written time of day accept.

The marks of a text, its characters that are no figures, point to one format (`pointedTo`), and a
text is written in no other (`of_clock?`).  So the order in which the formats are tried does not
matter (`read?_of_forall_mem`).

The readers bound what they read: an hour is below 24 and a minute below 60 in every format.  To say
so, the clock that a text shows is taken as the bare numbers that are read (`clock?`).  That these
are a time of day is then not a condition on them but a fact (`read?_eq_some_iff`).
-/
import ZonePlan.Proofs.Calendar.Reader

namespace ZonePlan.Calendar

/-! ### What the parts of a written time take -/

namespace Reader

theorem hour_takes : Takes hour (Figures 23) :=
  (tens_takes (digitIn_takes 2 2) (digitIn_takes 0 3)).or <|
    ((tens_takes (digitIn_takes 0 1) digit_takes).figures_le (by decide)).or <|
      digit_takes.figures_le (by decide)

theorem minute_takes : Takes minute (Figures 59) :=
  (tens_takes (digitIn_takes 0 5) digit_takes).or (digit_takes.figures_le (by decide))

theorem month_takes : Takes month (Figures 19) :=
  ((tens_takes (digitIn_takes 1 1) (digitIn_takes 0 2)).figures_le (by decide)).or <|
    ((tens_takes (digitIn_takes 0 0) (digitIn_takes 1 9)).figures_le (by decide)).or <|
      (digitIn_takes 1 9).figures_le (by decide)

theorem mark_takes (c : Char) : Takes (mark c) fun part _ => part = [c] := by
  refine (Takes.char _).weaken ?_
  rintro part _ ⟨d, rfl, hd⟩
  rw [(Option.ite_none_right_eq_some.1 hd).1]

theorem letter_takes (c : Char) : Takes (letter c) fun part _ => ∃ d, part = [d] ∧ d.toLower = c := by
  refine (Takes.char _).weaken ?_
  rintro part _ ⟨d, rfl, hd⟩
  exact ⟨d, rfl, (Option.ite_none_right_eq_some.1 hd).1⟩

/-- A number of figures and nothing else. -/
def Row (length : Nat) (part : List Char) : Prop := part.length = length ∧ marks part = []

theorem twoDigits_takes : Takes (tens digit digit) fun part _ => Row 2 part := by
  refine ((Takes.char _).pair (Takes.char _)).map _ ?_
  rintro part _ ⟨_, _, rfl, ⟨c, rfl, hc⟩, d, rfl, hd⟩
  exact ⟨rfl, by rw [marks_append, marks_figure hc, marks_figure hd, List.append_nil]⟩

theorem shortYear_takes : Takes shortYear fun part _ => Row 2 part :=
  twoDigits_takes.map _ fun _ _ hpart => hpart

theorem longYear_takes : Takes longYear fun part _ => Row 4 part := by
  refine (twoDigits_takes.pair twoDigits_takes).map _ ?_
  rintro part _ ⟨century, year, rfl, ⟨hcentury, hcentury'⟩, hyear, hyear'⟩
  refine ⟨by rw [List.length_append, hcentury, hyear], ?_⟩
  rw [marks_append, hcentury', hyear', List.append_nil]

theorem day_takes : Takes day fun _ _ => True := by
  have hall : ∀ {r : Reader Nat} {P : List Char → Nat → Prop}, Takes r P →
      Takes r fun _ _ => True := fun h => h.weaken fun _ _ _ => trivial
  exact (hall (tens_takes (digitIn_takes 3 3) (digitIn_takes 0 1))).or <|
    (hall (tens_takes (digitIn_takes 1 2) digit_takes)).or <|
      (hall (tens_takes (digitIn_takes 0 0) (digitIn_takes 1 9))).or <|
        (hall (digitIn_takes 1 9)).or <|
          ((mark_takes ' ').pair (digitIn_takes 1 9)).map _ fun _ _ _ => trivial

/-- An hour and a minute with a colon between them. -/
theorem clock_takes : Takes (pair hour (pair (mark ':') minute)) fun part x =>
    marks part = [':'] ∧ x.1 ≤ 23 ∧ x.2.2 ≤ 59 := by
  refine (hour_takes.pair ((mark_takes ':').pair minute_takes)).weaken ?_
  rintro _ x ⟨hour, _, rfl, ⟨hhour, hx⟩, _, minute, rfl, rfl, hminute, hx'⟩
  refine ⟨?_, hx, hx'⟩
  rw [marks_append, hhour, List.nil_append, List.singleton_append, marks_cons (by decide), hminute]

/-- A date begins with the figures of its year and a dash. -/
theorem dated_takes {year : Reader Nat} {length : Nat}
    (hyear : Takes year fun part _ => Row length part) : Takes (dated year) fun part x =>
      (∃ figures rest, part = figures ++ '-' :: rest ∧ Row length figures) ∧
        x.2.1 ≤ 23 ∧ x.2.2 ≤ 59 := by
  have hbehind := month_takes.behind <| (mark_takes '-').behind <| day_takes.behind <|
    (letter_takes 't').behind <| clock_takes.weaken fun _ _ hpart => hpart.2
  refine (hyear.pair ((mark_takes '-').pair hbehind)).map _ ?_
  rintro part ⟨_, _, _, _, _, _, hour, _, minute⟩ ⟨figures, _, rfl, hfigures, _, rest, rfl, rfl, hclock⟩
  exact ⟨⟨figures, rest, rfl, hfigures⟩, hclock⟩

/-! Letters that stand for a half of the day are no figures, in either case. -/

theorem eq_or_eq_of_toLower {c small : Char} (large : Char) (hcase : large.toNat + 32 = small.toNat)
    (h : c.toLower = small) : c = small ∨ c = large := by
  unfold Char.toLower at h
  split at h
  · rename_i hc
    refine .inr (Char.toNat_inj.1 ?_)
    have hle : c.val.toNat ≤ 90 := hc.2
    have hval : (c.val + 32).toNat = small.toNat := congrArg Char.toNat h
    have hc : c.toNat = c.val.toNat := rfl
    rw [UInt32.toNat_add] at hval
    have h32 : (32 : UInt32).toNat = 32 := rfl
    omega
  · exact .inl h

theorem half_takes : Takes half fun part _ => ∃ c d, part = [c, d] ∧ marks part = part ∧ c ≠ ' ' := by
  have hfirst : Takes (((letter 'a').map fun _ => false).or ((letter 'p').map fun _ => true))
      fun part _ => ∃ c, part = [c] ∧ Text.digit? c = none ∧ c ≠ ' ' := by
    refine ((letter_takes 'a').map _ ?_).or ((letter_takes 'p').map _ ?_)
    · rintro _ _ ⟨c, rfl, hc⟩
      rcases eq_or_eq_of_toLower 'A' rfl hc with rfl | rfl
      · exact ⟨_, rfl, by decide, by decide⟩
      · exact ⟨_, rfl, by decide, by decide⟩
    · rintro _ _ ⟨c, rfl, hc⟩
      rcases eq_or_eq_of_toLower 'P' rfl hc with rfl | rfl
      · exact ⟨_, rfl, by decide, by decide⟩
      · exact ⟨_, rfl, by decide, by decide⟩
  refine (hfirst.pair (letter_takes 'm')).map _ ?_
  rintro _ _ ⟨_, _, rfl, ⟨c, rfl, hc, hblank⟩, d, rfl, hd⟩
  have hd : Text.digit? d = none := by
    rcases eq_or_eq_of_toLower 'M' rfl hd with rfl | rfl <;> decide
  exact ⟨c, d, rfl, by rw [List.singleton_append, marks_cons hc, marks_cons hd, marks_nil], hblank⟩

/-- A dial shows its hour and its minute with a colon between them, and behind them, after a gap, a
half of the day. -/
theorem dial_takes {gap : Reader Unit} {between : List Char}
    (hgap : Takes gap fun part _ => part = between) : Takes (dial gap) fun part _ =>
      ∃ c d, marks part = ':' :: (marks between ++ [c, d]) ∧ c ≠ ' ' := by
  have hhour : Takes ((tens digit digit).or digit) (Figures 99) :=
    (tens_takes digit_takes digit_takes).or (digit_takes.figures_le (by decide))
  refine (hhour.pair ((mark_takes ':').pair ((tens_takes digit_takes digit_takes).pair
    (hgap.pair half_takes)))).map _ ?_
  rintro _ _ ⟨hour, _, rfl, ⟨hhour, -⟩, _, _, rfl, rfl, minute, _, rfl, ⟨hminute, -⟩, _, _, rfl, rfl,
    c, d, rfl, hhalf, hc⟩
  refine ⟨c, d, ?_, hc⟩
  rw [marks_append, hhour, List.nil_append, List.singleton_append, marks_cons (by decide),
    marks_append, hminute, List.nil_append, marks_append, hhalf]

end Reader

/-! ### The format that the marks point to -/

namespace TimeFormat

open Reader

/-- The format that the marks of a text point to: a dash to one with a date, and a blank behind a
colon to one with a blank. -/
def pointedTo (s : List Char) : TimeFormat :=
  match marks s with
  | [] => .compact
  | first :: behind =>
    if first = '-' then
      if (s.takeWhile fun c => c ≠ '-').length = 4 then .longDated else .shortDated
    else match behind with
      | [] => .separated
      | next :: _ => if next = ' ' then .spacedDial else .dial

theorem pointedTo_of_row {length : Nat} {figures rest : List Char} (h : Row length figures) :
    pointedTo (figures ++ '-' :: rest) = if length = 4 then .longDated else .shortDated := by
  obtain ⟨rfl, hmarks⟩ := h
  have hdash : ∀ c ∈ figures, decide (c ≠ '-') = true := by
    intro c hc
    refine decide_eq_true fun hdash => ?_
    have hmark : c ∈ marks figures := List.mem_filter.2 ⟨hc, by rw [hdash]; decide⟩
    rw [hmarks] at hmark
    exact List.not_mem_nil hmark
  rw [pointedTo, marks_append, hmarks, List.nil_append, marks_cons (by decide),
    List.takeWhile_append_of_pos hdash]
  simp only [if_true]
  rw [List.takeWhile_cons_of_neg (by decide), List.append_nil]

theorem pointedTo_of_colon {s : List Char} (h : marks s = [':']) : pointedTo s = .separated := by
  rw [pointedTo, h]
  rfl

theorem pointedTo_of_half {s behind : List Char} {c : Char} (h : marks s = ':' :: c :: behind) :
    pointedTo s = if c = ' ' then .spacedDial else .dial := by
  rw [pointedTo, h]
  rfl

/-- The hour and the minute that a text shows in a format. -/
def clock? (format : TimeFormat) (s : List Char) : Option (Nat × Nat) :=
  match format with
  | .longDated => ((dated .longYear).whole? s).bind onCalendar
  | .shortDated => ((dated .shortYear).whole? s).bind onCalendar
  | .spacedDial => ((Reader.dial (mark ' ')).whole? s).bind onDial
  | .dial => ((Reader.dial .nothing).whole? s).bind onDial
  | .separated =>
    ((pair hour (pair (mark ':') minute)).whole? s).map fun (hour, _, minute) => (hour, minute)
  | .compact => (pair hour minute).whole? s
where
  onCalendar : Date × Nat × Nat → Option (Nat × Nat)
    | (date, clock) => if 1 ≤ date.year && date.isValid then some clock else none
  onDial : Nat × Nat × Bool → Option (Nat × Nat)
    | (hour, minute, afternoon) =>
      if hour ≤ 12 ∧ minute ≤ 59 then some (hour % 12 + if afternoon then 12 else 0, minute) else none

theorem of_dated {year : Reader Nat} {length : Nat} {s : List Char} {h m : Nat}
    (hyear : Takes year fun part _ => Row length part)
    (hclock : ((dated year).whole? s).bind clock?.onCalendar = some (h, m)) :
    pointedTo s = (if length = 4 then .longDated else .shortDated) ∧ h < 24 ∧ m < 60 := by
  obtain ⟨⟨date, clock⟩, hread, hdate⟩ := Option.bind_eq_some_iff.1 hclock
  obtain ⟨⟨figures, rest, rfl, hrow⟩, hhour, hminute⟩ := (dated_takes hyear).of_whole? hread
  obtain rfl := Option.some.inj (Option.ite_none_right_eq_some.1 hdate).2
  exact ⟨pointedTo_of_row hrow, Nat.lt_succ_of_le hhour, Nat.lt_succ_of_le hminute⟩

theorem of_dial {gap : Reader Unit} {between s : List Char} {h m : Nat}
    (hgap : Takes gap fun part _ => part = between)
    (hclock : ((Reader.dial gap).whole? s).bind clock?.onDial = some (h, m)) :
    (∃ c d, marks s = ':' :: (marks between ++ [c, d]) ∧ c ≠ ' ') ∧ h < 24 ∧ m < 60 := by
  obtain ⟨⟨hour, minute, afternoon⟩, hread, hx⟩ := Option.bind_eq_some_iff.1 hclock
  obtain ⟨⟨hhour, hminute⟩, hshown⟩ := Option.ite_none_right_eq_some.1 hx
  obtain ⟨rfl, rfl⟩ := Prod.mk.inj (Option.some.inj hshown)
  refine ⟨(dial_takes hgap).of_whole? hread, ?_, Nat.lt_succ_of_le hminute⟩
  split <;> omega

/-- **A text shows a clock only in the format that its marks point to, and what it shows is a time
of day.** -/
theorem of_clock? {format : TimeFormat} {s : List Char} {h m : Nat}
    (hclock : format.clock? s = some (h, m)) : pointedTo s = format ∧ h < 24 ∧ m < 60 := by
  cases format with
  | longDated => exact of_dated longYear_takes hclock
  | shortDated => exact of_dated shortYear_takes hclock
  | spacedDial =>
    obtain ⟨⟨c, d, hmarks, -⟩, hlt⟩ := of_dial (mark_takes ' ') hclock
    exact ⟨(pointedTo_of_half hmarks).trans (if_pos rfl), hlt⟩
  | dial =>
    obtain ⟨⟨c, d, hmarks, hc⟩, hlt⟩ := of_dial Takes.nothing hclock
    exact ⟨(pointedTo_of_half hmarks).trans (if_neg hc), hlt⟩
  | separated =>
    obtain ⟨x, hread, hx⟩ := Option.map_eq_some_iff.1 hclock
    obtain ⟨hmarks, hhour, hminute⟩ := clock_takes.of_whole? hread
    obtain ⟨rfl, rfl⟩ := Prod.mk.inj hx
    exact ⟨pointedTo_of_colon hmarks, Nat.lt_succ_of_le hhour, Nat.lt_succ_of_le hminute⟩
  | compact =>
    obtain ⟨hour, minute, rfl, ⟨hmarks, hhour⟩, hmarks', hminute⟩ :=
      (hour_takes.pair minute_takes).of_whole? hclock
    refine ⟨?_, Nat.lt_succ_of_le hhour, Nat.lt_succ_of_le hminute⟩
    rw [pointedTo, marks_append, hmarks, hmarks']
    rfl

theorem onDate_eq (x : Date × Nat × Nat) :
    onDate x = (clock?.onCalendar x).bind fun clock => TimeOfDay.of? clock.1 clock.2 := by
  obtain ⟨date, hour, minute⟩ := x
  show (if _ then _ else _) = Option.bind (if _ then _ else _) _
  split <;> rfl

theorem ofDial?_eq (hour minute : Nat) (afternoon : Bool) :
    TimeOfDay.ofDial? hour minute afternoon = (clock?.onDial (hour, minute, afternoon)).bind
      fun clock => TimeOfDay.of? clock.1 clock.2 := by
  show (if hour ≤ 12 then TimeOfDay.of? (hour % 12 + if afternoon then 12 else 0) minute else none) =
    Option.bind (if _ then some (hour % 12 + if afternoon then 12 else 0, minute) else none) _
  generalize (hour % 12 + if afternoon then 12 else 0) = shown
  by_cases hhour : hour ≤ 12
  · rw [if_pos hhour]
    by_cases hminute : minute ≤ 59
    · rw [if_pos ⟨hhour, hminute⟩]
      rfl
    · rw [if_neg fun h => hminute h.2]
      exact dif_neg fun h => hminute (Nat.le_of_lt_succ h.2)
  · rw [if_neg hhour, if_neg fun h => hhour h.1]
    rfl

theorem read?_eq_bind (format : TimeFormat) (s : List Char) :
    format.read? s = (format.clock? s).bind fun clock => TimeOfDay.of? clock.1 clock.2 := by
  cases format with
  | longDated | shortDated =>
    rw [read?, clock?, Option.bind_assoc]
    exact congrArg _ (funext onDate_eq)
  | spacedDial | dial =>
    rw [read?, clock?, Option.bind_assoc]
    refine congrArg _ (funext ?_)
    rintro ⟨hour, minute, afternoon⟩
    exact ofDial?_eq hour minute afternoon
  | separated =>
    rw [read?, clock?, Option.bind_map]
    rfl
  | compact => rfl

/-- A time of day is read just if its hour and its minute are shown. -/
theorem read?_eq_some_iff {format : TimeFormat} {s : List Char} {time : TimeOfDay} :
    format.read? s = some time ↔ format.clock? s = some (time.hour, time.minute) := by
  rw [read?_eq_bind]
  rcases hclock : format.clock? s with _ | ⟨hour, minute⟩
  · simp
  · obtain ⟨-, hhour, hminute⟩ := of_clock? hclock
    have hof : TimeOfDay.of? hour minute = some ⟨hour, minute, hhour, hminute⟩ :=
      dif_pos ⟨hhour, hminute⟩
    rw [Option.bind_some, hof, Option.some.injEq, Option.some.injEq]
    constructor
    · rintro rfl
      rfl
    · rintro h
      obtain ⟨rfl, rfl⟩ := Prod.mk.inj h
      rfl

/-- A text is written in the format that its marks point to, if in any. -/
theorem eq_pointedTo {format : TimeFormat} {s : List Char} {time : TimeOfDay}
    (h : format.read? s = some time) : format = pointedTo s :=
  (of_clock? (read?_eq_some_iff.1 h)).1.symm

end TimeFormat

/-! ### The order of the formats -/

/-- Formats that are all there read a text in the one that its marks point to, in whatever order they
are tried. -/
theorem TimeOfDay.read?_of_forall_mem {formats : List TimeFormat} (h : ∀ format, format ∈ formats)
    (s : List Char) : TimeOfDay.read? formats s = (TimeFormat.pointedTo s).read? s := by
  have hread : ∀ (format : TimeFormat) time, format.read? s = some time →
      (TimeFormat.pointedTo s).read? s = some time := by
    intro format time htime
    rwa [← TimeFormat.eq_pointedTo htime]
  rcases hfound : TimeOfDay.read? formats s with _ | time
  · exact (List.findSome?_eq_none_iff.1 hfound _ (h _)).symm
  · obtain ⟨format, -, htime⟩ := List.exists_of_findSome?_eq_some hfound
    exact (hread format time htime).symm

theorem TimeFormat.mem_all (format : TimeFormat) : format ∈ all := by
  cases format <;> decide

end ZonePlan.Calendar
