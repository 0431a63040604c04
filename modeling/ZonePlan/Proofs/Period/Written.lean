/-
Periods that are written down, and their own text.

A written period is read if it has a name, two times of day in their order and a pattern of seven
characters; the period then has what is written (`parse_eq_ok_iff`).  Of the checks that every
period goes through no other can find anything, since the readers of times and patterns bound what
they give (`parse_of_texts`).

The text of a period shows its ends cut to the minute, and seven days.  Read again it gives the
period just if nothing is lost by that (`parse_display`).  A window that lasts until 24:00 is not
read at all: no time of day is written so.
-/
import ZonePlan.Proofs.Period.WrittenTime

namespace ZonePlan

open Calendar (TimeOfDay TimeFormat clockSpelling)

/-- A time of day is a full minute. -/
theorem Calendar.TimeOfDay.exists_millis_eq (time : TimeOfDay) :
    ∃ n ≤ 1439, time.millis = n * millisPerMinute := by
  have hhour := time.hour_lt
  have hminute := time.minute_lt
  refine ⟨60 * time.hour + time.minute, by omega, ?_⟩
  unfold TimeOfDay.millis millisPerMinute
  omega

/-! ### What a period is made and read from -/

section

variable {α β : Type} {x : Except Failure α} {f : α → Except Failure β}

theorem bind_eq_ok_iff {b : β} : x.bind f = .ok b ↔ ∃ a, x = .ok a ∧ f a = .ok b := by
  cases x <;> simp [Except.bind]

/-- The first failure of two pieces of work is that of both together. -/
theorem bind_eq_error_iff {e : Failure} :
    x.bind f = .error e ↔ x = .error e ∨ ∃ a, x = .ok a ∧ f a = .error e := by
  cases x <;> simp [Except.bind]

end

theorem readTime_eq_error {s : Text} {e : Failure} (h : (readTime (.text s)).result = .error e) :
    e = .unreadableTime s := by
  rw [result_readTime] at h
  split at h
  · cases h
  · exact (Except.error.inj h).symm

namespace Period

/-- Each period is made of its own name, ends and mask, and of nothing else. -/
theorem make_eq_ok_iff {name : Text} {start finish days : Int} {p : Period} :
    make name start finish days = .ok p ↔
      p.name = name ∧ (p.start : Int) = start ∧ (p.finish : Int) = finish ∧ (p.days : Int) = days := by
  constructor
  · intro h
    unfold make at h
    iterate 7 (split at h; · cases h)
    obtain rfl := Except.ok.inj h
    refine ⟨rfl, ?_, ?_, ?_⟩ <;> exact Int.toNat_of_nonneg (by omega)
  · rintro ⟨rfl, rfl, rfl, rfl⟩
    have hlength := p.start_add_le
    have hfinish := p.finish_le
    have hdays := p.days_lt
    unfold make
    rw [dif_neg p.name_ne, dif_neg (by omega), if_neg (by omega), if_neg (by omega),
      dif_neg (by omega), dif_neg (by omega), dif_neg (by omega)]
    rfl

/-- A period is read where its name, its ends and its mask are. -/
theorem parse_eq_ok_iff {name start finish days : Json.Value} {p : Period} :
    (parse name start finish days).result = .ok p ↔
      readName name = .ok p.name ∧ (∃ a, (readTime start).result = .ok a ∧ a.millis = p.start) ∧
        (∃ b, (readTime finish).result = .ok b ∧ b.millis = p.finish) ∧
        readDays days = .ok p.days := by
  simp only [parse, Logged.result_bind, Logged.result_ofExcept, bind_eq_ok_iff, make_eq_ok_iff]
  constructor
  · rintro ⟨name, hname, a, ha, b, hb, mask, hmask, rfl, hstart, hfinish, hdays⟩
    obtain rfl := Int.ofNat.inj hdays
    exact ⟨hname, ⟨a, ha, (Int.ofNat.inj hstart).symm⟩, ⟨b, hb, (Int.ofNat.inj hfinish).symm⟩, hmask⟩
  · rintro ⟨hname, ⟨a, ha, hstart⟩, ⟨b, hb, hfinish⟩, hdays⟩
    exact ⟨_, hname, a, ha, b, hb, _, hdays, rfl, by rw [hstart], by rw [hfinish], rfl⟩

theorem readName_eq_ok_iff {name read : Text} :
    readName (.text name) = .ok read ↔ name ≠ "" ∧ read = name := by
  by_cases h : name = ""
  · simp [readName, h]
  · simp [readName_text h, h, eq_comm]

/-- A pattern gives a mask of seven days. -/
theorem readDays_eq_ok {v : Json.Value} {mask : Nat} (h : readDays v = .ok mask) :
    ∃ t : Text, v = .text t ∧ t.length = 7 ∧ mask = maskOf t.codes ∧ mask ≤ everyDay := by
  unfold readDays at h
  split at h
  · rename_i t
    split at h
    · rename_i hlength
      obtain rfl := Except.ok.inj h
      exact ⟨t, rfl, hlength, rfl, Nat.le_of_lt_succ (maskOf_lt_of_length hlength)⟩
    · cases h
  · cases h

/-- What is wrong with a written period is its name, one of its times, its pattern, or that it does
not start before it ends. -/
theorem parse_eq_error {name s e d : Text} {f : Failure}
    (h : (parse (.text name) (.text s) (.text e) (.text d)).result = .error f) :
    f = .emptyName ∨ f = .unreadableTime s ∨ f = .unreadableTime e ∨ f = .badDays d.quoted ∨
      ∃ length, f = .windowTooShort length := by
  simp only [parse, Logged.result_bind, Logged.result_ofExcept, bind_eq_error_iff] at h
  rcases h with hname | ⟨read, hname, hs | ⟨a, -, he | ⟨b, -, hd | ⟨mask, hmask, hmake⟩⟩⟩⟩
  · by_cases hempty : name = ""
    · rw [readName, if_pos hempty] at hname
      exact .inl (Except.error.inj hname).symm
    · cases (readName_text hempty).symm.trans hname
  · exact .inr (.inl (readTime_eq_error hs))
  · exact .inr (.inr (.inl (readTime_eq_error he)))
  · by_cases hlength : d.length = 7
    · cases (readDays_text hlength).symm.trans hd
    · rw [readDays, if_neg hlength] at hd
      exact .inr (.inr (.inr (.inl (Except.error.inj hd).symm)))
  · obtain ⟨hread, rfl⟩ := readName_eq_ok_iff.1 hname
    obtain ⟨-, -, -, -, hle⟩ := readDays_eq_ok hmask
    obtain ⟨hmade, hshort⟩ := make_of_times hread a b (Nat.lt_of_le_of_lt hle (by decide))
    by_cases horder : a.millis < b.millis
    · obtain ⟨p, hp⟩ := hmade horder
      cases hmake.symm.trans hp
    · exact .inr (.inr (.inr (.inr ⟨_, Except.error.inj (hmake.symm.trans (hshort horder))⟩)))

/-- Of a name, two times of day in their order and seven days there is a period. -/
theorem exists_parse_eq_ok {name s e d : Text} {a b : TimeOfDay} (hname : name ≠ "")
    (ha : (readTime (.text s)).result = .ok a) (hb : (readTime (.text e)).result = .ok b)
    (horder : a.millis < b.millis) (hdays : d.length = 7) :
    ∃ p, (parse (.text name) (.text s) (.text e) (.text d)).result = .ok p := by
  have hmask := Nat.lt_trans (maskOf_lt_of_length hdays) (by decide : 128 < 256)
  obtain ⟨p, hp⟩ := (make_of_times hname a b hmask).1 horder
  refine ⟨p, ?_⟩
  rw [result_parse hname hdays, ha, hb]
  exact hp

/-- **A written period is read just if it has a name, two times of day of which the first is the
earlier one, and a pattern of seven characters.**  No text is read as a time that is not a full
minute of the day: a format that shows an hour and a minute shows such, and this is the time that is
read.  So nothing is wrong with a period that is not wrong with one of its parts or with their order,
and its mask is one of seven days. -/
theorem parse_of_texts (name s e d : Text) :
    ((∃ p, (parse (.text name) (.text s) (.text e) (.text d)).result = .ok p) ↔
      name ≠ "" ∧ (∃ a b, (readTime (.text s)).result = .ok a ∧
        (readTime (.text e)).result = .ok b ∧ a.millis < b.millis) ∧ d.length = 7) ∧
    (∀ f, (parse (.text name) (.text s) (.text e) (.text d)).result = .error f →
      f = .emptyName ∨ f = .unreadableTime s ∨ f = .unreadableTime e ∨ f = .badDays d.quoted ∨
        ∃ length, f = .windowTooShort length) ∧
    (∀ p, (parse (.text name) (.text s) (.text e) (.text d)).result = .ok p → p.days ≤ 0x7f) ∧
    ∀ t : Text,
      (∀ format hour minute, TimeFormat.clock? format (writtenTime (.text t)) = some (hour, minute) →
        hour ≤ 23 ∧ minute ≤ 59) ∧
      (∀ time, (readTime (.text t)).result = .ok time ↔ ∃ format,
        TimeFormat.clock? format (writtenTime (.text t)) = some (time.hour, time.minute)) ∧
      ∀ time, (readTime (.text t)).result = .ok time →
        ∃ n ≤ 1439, time.millis = n * millisPerMinute := by
  refine ⟨⟨?_, ?_⟩, fun f hf => parse_eq_error hf, ?_, fun t => ⟨?_, ?_, ?_⟩⟩
  · rintro ⟨p, hp⟩
    obtain ⟨hname, ⟨a, ha, hstart⟩, ⟨b, hb, hfinish⟩, hdays⟩ := parse_eq_ok_iff.1 hp
    obtain ⟨_, ht, hlength, -, -⟩ := readDays_eq_ok hdays
    obtain rfl := Json.Value.text.inj ht
    have horder := p.start_add_le
    unfold millisPerMinute at horder
    exact ⟨(readName_eq_ok_iff.1 hname).1, ⟨a, b, ha, hb, by omega⟩, hlength⟩
  · rintro ⟨hname, ⟨a, b, ha, hb, horder⟩, hdays⟩
    exact exists_parse_eq_ok hname ha hb horder hdays
  · intro p hp
    obtain ⟨-, -, -, hdays⟩ := parse_eq_ok_iff.1 hp
    obtain ⟨-, -, -, -, hle⟩ := readDays_eq_ok hdays
    exact hle
  · intro format hour minute hclock
    obtain ⟨-, hhour, hminute⟩ := TimeFormat.of_clock? hclock
    exact ⟨Nat.le_of_lt_succ hhour, Nat.le_of_lt_succ hminute⟩
  · intro time
    rw [readTime_eq_ok_iff, timeOf?, TimeOfDay.read?_of_forall_mem TimeFormat.mem_all]
    simp only [← TimeFormat.read?_eq_some_iff]
    constructor
    · exact fun h => ⟨_, h⟩
    · rintro ⟨format, h⟩
      rwa [← TimeFormat.eq_pointedTo h]
  · exact fun time _ => time.exists_millis_eq

/-- A siesta is read from times that are written in two formats, one of them with figures of another
script; it cannot be over when it begins. -/
theorem parse_of_siesta :
    (∃ p, (parse (.str "siesta") (.str "12:٣٠ pM") (.str "20-02-29T14:30") (.str "MTWTF..")).result =
      .ok p ∧ p.days ≤ 0x7f) ∧
    ∃ f, (parse (.str "siesta") (.str "14:30") (.str "2:30 PM") (.str "MTWTF..")).result = .error f ∧
      (f = .emptyName ∨ f = .unreadableTime "14:30" ∨ f = .unreadableTime "2:30 PM" ∨
        f = .badDays ("MTWTF.." : Text).quoted ∨ ∃ length, f = .windowTooShort length) := by
  obtain ⟨hiff, -, hmask, -⟩ := parse_of_texts "siesta" "12:٣٠ pM" "20-02-29T14:30" "MTWTF.."
  have hstart : (readTime (.str "12:٣٠ pM")).result = .ok ⟨12, 30, by decide, by decide⟩ :=
    readTime_eq_ok_iff.2 (by decide)
  have hfinish : (readTime (.str "20-02-29T14:30")).result = .ok ⟨14, 30, by decide, by decide⟩ :=
    readTime_eq_ok_iff.2 (by decide)
  obtain ⟨p, hp⟩ := hiff.2 ⟨by decide, ⟨_, _, hstart, hfinish, by decide⟩, by decide⟩
  obtain ⟨hover, herror, -, -⟩ := parse_of_texts "siesta" "14:30" "2:30 PM" "MTWTF.."
  have hend : (readTime (.str "14:30")).result = .ok ⟨14, 30, by decide, by decide⟩ :=
    readTime_eq_ok_iff.2 (by decide)
  have hend' : (readTime (.str "2:30 PM")).result = .ok ⟨14, 30, by decide, by decide⟩ :=
    readTime_eq_ok_iff.2 (by decide)
  refine ⟨⟨p, hp, hmask p hp⟩, ?_⟩
  rcases hread : (parse (.str "siesta") (.str "14:30") (.str "2:30 PM") (.str "MTWTF..")).result with
    f | q
  · exact ⟨f, rfl, herror f hread⟩
  · obtain ⟨-, ⟨a, b, ha, hb, horder⟩, -⟩ := hover.1 ⟨q, hread⟩
    obtain rfl := Except.ok.inj (hend.symm.trans ha)
    obtain rfl := Except.ok.inj (hend'.symm.trans hb)
    exact absurd horder (Nat.lt_irrefl _)

/-! ### The text of a period, read again -/

/-- The letters of the days give back the mask that picks them. -/
theorem maskOf_mapIdx {letters : List Char} (hletters : ∀ c ∈ letters, clearsDay c.toNat = false)
    (days : Nat) :
    maskOf ((letters.mapIdx fun i letter => if days.testBit i then letter else '.').map Char.toNat) =
      days % Number.pow2 letters.length := by
  induction letters generalizing days with
  | nil => exact (Nat.mod_one days).symm
  | cons c rest ih =>
    rw [List.forall_mem_cons] at hletters
    have hrest := ih hletters.2 (days / 2)
    simp only [← Nat.testBit_succ] at hrest
    have hfirst : (if clearsDay (if days.testBit 0 then c else '.').toNat then 0 else 1) =
        days % 2 := by
      rw [Nat.testBit_zero]
      rcases Nat.mod_two_eq_zero_or_one days with hbit | hbit
      · rw [hbit]
        rfl
      · rw [hbit]
        exact if_neg (Bool.eq_false_iff.1 hletters.1)
    rw [List.mapIdx_cons, List.map_cons, maskOf, hfirst, hrest, List.length_cons, Number.pow2_succ,
      Nat.mul_comm _ 2, Nat.mod_mul]

/-- A pattern shows the seven days of a mask. -/
theorem readDays_daysPattern (p : Period) : readDays (.str p.daysPattern) = .ok (p.days % 128) := by
  have hletters : ∀ c ∈ dayLetters, clearsDay c.toNat = false := by
    simp [dayLetters, clearsDay]
  have hcodes : (p.daysPattern : Text).codes =
      (dayLetters.mapIdx fun i letter => if p.days.testBit i then letter else '.').map Char.toNat := by
    rw [Text.ofString, Text.ofChars, daysPattern, String.toList_ofList]
    rfl
  have hlength : (p.daysPattern : Text).length = 7 := by
    rw [Text.length, hcodes, List.length_map, List.length_mapIdx]
    rfl
  rw [Json.Value.str, readDays_text hlength, hcodes, maskOf_mapIdx hletters]
  rfl

/-- A distance from midnight is shown as an hour and a minute. -/
theorem offsetText_eq (n : Nat) :
    offsetText n = clockSpelling 2 (n / 3600000) (n % 3600000 / 60000) := by
  have htwo : ∀ n : Nat, twoDigits n = Calendar.Moment.padded 2 n := fun n =>
    if_neg (by omega)
  rw [clockSpelling, ← htwo, ← htwo]
  rfl

/-- What is shown of an end of a window is read as that end if it is a full minute before 24:00. -/
theorem exists_readTime_offsetText_iff {n : Nat} (h : n ≤ millisPerDay) :
    (∃ time, (readTime (.str (offsetText n))).result = .ok time ∧ time.millis = n) ↔
      n % millisPerMinute = 0 ∧ n < millisPerDay := by
  simp only [Json.Value.str, readTime_eq_ok_iff]
  by_cases hday : n < millisPerDay
  · have hhour : n / 3600000 < 24 := by
      unfold millisPerDay at hday
      omega
    have hread := timeOf?_of_spelling ⟨n / 3600000, n % 3600000 / 60000, hhour, by omega⟩
      (.separated (.inr rfl))
    rw [offsetText_eq, hread]
    simp only [Option.some.injEq, exists_eq_left', TimeOfDay.millis]
    unfold millisPerMinute
    omega
  · obtain rfl : n = millisPerDay := by omega
    have hread : timeOf? (offsetText millisPerDay) = none := rfl
    simp [hread]

/-- **The text of a period gives it back when it is read, just if its ends are full minutes, it ends
before 24:00, and its mask is one of seven days.**  Each period that was read from texts is so. -/
theorem parse_display (p : Period) :
    ((parse (.text p.name) (.str (offsetText p.start)) (.str (offsetText p.finish))
        (.str p.daysPattern)).result = .ok p ↔
      p.start % millisPerMinute = 0 ∧ p.finish % millisPerMinute = 0 ∧ p.finish < millisPerDay ∧
        p.days ≤ everyDay) ∧
    ∀ name start finish days, (parse name start finish days).result = .ok p →
      (parse (.text p.name) (.str (offsetText p.start)) (.str (offsetText p.finish))
        (.str p.daysPattern)).result = .ok p := by
  have hlength := p.start_add_le
  have hfinish := p.finish_le
  have hdisplay : (parse (.text p.name) (.str (offsetText p.start)) (.str (offsetText p.finish))
      (.str p.daysPattern)).result = .ok p ↔
      p.start % millisPerMinute = 0 ∧ p.finish % millisPerMinute = 0 ∧ p.finish < millisPerDay ∧
        p.days ≤ everyDay := by
    rw [parse_eq_ok_iff, readName_text p.name_ne, readDays_daysPattern,
      exists_readTime_offsetText_iff (by omega), exists_readTime_offsetText_iff hfinish]
    simp only [Except.ok.injEq, true_and]
    unfold everyDay
    omega
  refine ⟨hdisplay, fun name start finish days hp => hdisplay.2 ?_⟩
  obtain ⟨-, ⟨a, -, ha⟩, ⟨b, -, hb⟩, hdays⟩ := parse_eq_ok_iff.1 hp
  obtain ⟨-, -, -, -, hmask⟩ := readDays_eq_ok hdays
  obtain ⟨m, -, hm⟩ := a.exists_millis_eq
  obtain ⟨n, -, hn⟩ := b.exists_millis_eq
  have hlast := b.millis_lt
  unfold millisPerDay
  exact ⟨by rw [← ha, hm, Nat.mul_mod_left], by rw [← hb, hn, Nat.mul_mod_left], by omega, hmask⟩

/-- The night of a weekday, which lasts until 24:00. -/
def night : Period where
  name := "night"
  start := 79200000
  finish := millisPerDay
  days := 0x1f
  name_ne := by decide
  start_add_le := by decide
  finish_le := Nat.le_refl _
  days_lt := by decide

/-- The siesta that was read is read again from its text, but not the night. -/
theorem display_of_siesta :
    (∃ p, (parse (.str "siesta") (.str "12:30") (.str "2:30 PM") (.str "MTWTF..")).result = .ok p ∧
      (parse (.text p.name) (.str (offsetText p.start)) (.str (offsetText p.finish))
        (.str p.daysPattern)).result = .ok p) ∧
    (parse (.text night.name) (.str (offsetText night.start)) (.str (offsetText night.finish))
      (.str night.daysPattern)).result ≠ .ok night := by
  constructor
  · have hstart : (readTime (.str "12:30")).result = .ok ⟨12, 30, by decide, by decide⟩ :=
      readTime_eq_ok_iff.2 (by decide)
    have hfinish : (readTime (.str "2:30 PM")).result = .ok ⟨14, 30, by decide, by decide⟩ :=
      readTime_eq_ok_iff.2 (by decide)
    obtain ⟨p, hp⟩ := exists_parse_eq_ok (by decide : ("siesta" : Text) ≠ "") hstart hfinish
      (by decide) (by decide : ("MTWTF.." : Text).length = 7)
    exact ⟨p, hp, (parse_display p).2 _ _ _ _ hp⟩
  · intro h
    obtain ⟨-, -, hbefore, -⟩ := (parse_display night).1.1 h
    exact Nat.lt_irrefl _ hbefore

end Period
end ZonePlan
