/-
Written times of day, with blanks around them, read in any order of the formats.

`readTime` takes off the blanks and tries the formats one after the other.  A text is written in one
format at most, so the order in which they are tried cannot be seen (`readTime_in_any_order`), and
every spelling of a time is read, whatever blanks are around it (`readTime_of_spelling`).
-/
import ZonePlan.Proofs.Calendar.Spelling
import ZonePlan.Proofs.Period.Parse

namespace ZonePlan

open Calendar (TimeOfDay TimeFormat Spells clockSpelling)
open Calendar.Moment (padded)

/-! ### The order of the formats -/

/-- **No text is written in two formats, so that the formats may be tried in any order**: the time
that is read is the same, and so are the texts in which no time is read. -/
theorem readTime_in_any_order (s : Text) :
    (∀ format format' : TimeFormat, (format.read? (writtenTime (.text s))).isSome →
      (format'.read? (writtenTime (.text s))).isSome → format = format') ∧
    ∀ formats : List TimeFormat, formats.Perm TimeFormat.all →
      (readTimeIn formats (.text s)).result = (readTime (.text s)).result := by
  constructor
  · intro format format' h h'
    obtain ⟨time, htime⟩ := Option.isSome_iff_exists.1 h
    obtain ⟨time', htime'⟩ := Option.isSome_iff_exists.1 h'
    rw [TimeFormat.eq_pointedTo htime, TimeFormat.eq_pointedTo htime']
  · intro formats hperm
    have hall : ∀ format, format ∈ formats := fun format =>
      hperm.mem_iff.2 (TimeFormat.mem_all format)
    rw [← readTimeIn_all, result_readTimeIn, result_readTimeIn, TimeOfDay.read?_of_forall_mem hall,
      TimeOfDay.read?_of_forall_mem TimeFormat.mem_all]

/-- A date of which the day has a blank in front is one of the short format only, and its time is
read as well when the formats without a date are tried first. -/
theorem evening_in_any_order :
    (∀ format : TimeFormat, (format.read? (writtenTime (.str "\t00-02- 9t21:5"))).isSome →
      format = .shortDated) ∧
    TimeFormat.all.reverse.Perm TimeFormat.all ∧
      (readTimeIn TimeFormat.all.reverse (.str "\t00-02- 9t21:5")).result =
        .ok ⟨21, 5, by decide, by decide⟩ := by
  obtain ⟨hone, horder⟩ := readTime_in_any_order "\t00-02- 9t21:5"
  have hperm : TimeFormat.all.reverse.Perm TimeFormat.all := List.reverse_perm _
  exact ⟨fun format h => hone format .shortDated h (by decide), hperm,
    (horder _ hperm).trans (readTime_eq_ok_iff.2 (by decide))⟩

/-! ### Blanks around a spelling -/

/-- What is taken off the ends of a text are the blanks around it, if it neither begins nor ends with
one. -/
theorem Text.trim_between {α : Type} {p : α → Bool} {before s after : List α} {a b : α}
    (hbefore : ∀ x ∈ before, p x = true) (hafter : ∀ x ∈ after, p x = true)
    (hfirst : s.head? = some a) (ha : p a = false) (hlast : s.getLast? = some b)
    (hb : p b = false) : Text.trim p (before ++ s ++ after) = s := by
  have hdrop : ∀ {front rest : List α} {c : α}, (∀ x ∈ front, p x = true) → rest.head? = some c →
      p c = false → (front ++ rest).dropWhile p = rest := by
    intro front rest c hfront hrest hc
    obtain ⟨t, rfl⟩ := List.head?_eq_some_iff.1 hrest
    rw [List.dropWhile_append_of_pos hfront, List.dropWhile_cons_of_neg (Bool.eq_false_iff.1 hc)]
  have hfirst' : (s ++ after).head? = some a := by rw [List.head?_append, hfirst, Option.some_or]
  have hlast' : s.reverse.head? = some b := by rw [List.head?_reverse, hlast]
  have hafter' : ∀ x ∈ after.reverse, p x = true := fun x hx => hafter x (List.mem_reverse.1 hx)
  rw [Text.trim, List.append_assoc, hdrop hbefore hfirst' ha, List.reverse_append,
    hdrop hafter' hlast' hb, List.reverse_reverse]

theorem isBlank_of_isDigit {c : Char} (h : c.isDigit = true) : Text.isBlank c = false := by
  have hrange : 48 ≤ c.toNat ∧ c.toNat ≤ 57 := by
    obtain ⟨hlow, hhigh⟩ := Bool.and_eq_true_iff.1 h
    exact ⟨of_decide_eq_true hlow, of_decide_eq_true hhigh⟩
  simp only [Text.isBlank, Text.isBlankCode, Text.isSpaceCode, Bool.or_eq_false_iff,
    Bool.and_eq_false_iff, decide_eq_false_iff_not, beq_eq_false_iff_ne]
  omega

theorem isBlank_padded {width n : Nat} {c : Char} (hc : c ∈ (padded width n).toList) :
    Text.isBlank c = false := by
  rw [padded, String.toList_ofList] at hc
  rcases List.mem_append.1 hc with hc | hc
  · rw [List.eq_of_mem_replicate hc]
    decide
  · exact isBlank_of_isDigit (Nat.isDigit_of_mem_toDigits (by decide) (by decide) hc)

theorem padded_ne_nil (width n : Nat) : (padded width n).toList ≠ [] := by
  rw [padded, String.toList_ofList]
  exact List.append_ne_nil_of_right_ne_nil _ (List.ne_nil_of_length_pos Nat.length_toDigits_pos)

/-- What begins with a numeral begins with no blank. -/
theorem exists_head?_padded (width n : Nat) (rest : String) :
    ∃ c, (padded width n ++ rest).toList.head? = some c ∧ Text.isBlank c = false := by
  obtain ⟨c, t, ht⟩ := List.exists_cons_of_ne_nil (padded_ne_nil width n)
  have hc : c ∈ (padded width n).toList := ht ▸ List.mem_cons_self
  exact ⟨c, by rw [String.toList_append, ht]; rfl, isBlank_padded hc⟩

/-- What ends with a numeral ends with no blank. -/
theorem exists_getLast?_padded (front : String) (width n : Nat) :
    ∃ c, (front ++ padded width n).toList.getLast? = some c ∧ Text.isBlank c = false := by
  have hne := padded_ne_nil width n
  refine ⟨(padded width n).toList.getLast hne, ?_, isBlank_padded (List.getLast_mem hne)⟩
  rw [String.toList_append, List.getLast?_append, List.getLast?_eq_some_getLast hne, Option.some_or]

/-- No spelling begins or ends with a blank. -/
theorem ends_of_spells {hour minute : Nat} {s : String} (h : Spells hour minute s) :
    (∃ c, s.toList.head? = some c ∧ Text.isBlank c = false) ∧
      ∃ c, s.toList.getLast? = some c ∧ Text.isBlank c = false := by
  cases h with
  | separated hwidth =>
    refine ⟨?_, exists_getLast?_padded ..⟩
    rw [clockSpelling, String.append_assoc]
    exact exists_head?_padded ..
  | compact => exact ⟨exists_head?_padded .., exists_getLast?_padded ..⟩
  | @dial width shown gap half hwidth hshown hhour hgap hhalf =>
    constructor
    · rw [clockSpelling]
      simp only [String.append_assoc]
      exact exists_head?_padded ..
    · obtain ⟨c, d, hletters, -, hd⟩ := Calendar.exists_half hhalf
      refine ⟨d, ?_, ?_⟩
      · rw [String.toList_append, hletters, List.getLast?_append]
        rfl
      · rcases Calendar.Reader.eq_or_eq_of_toLower 'M' rfl hd with rfl | rfl <;> decide
  | longDated | shortDated =>
    rw [clockSpelling]
    constructor
    · simp only [String.append_assoc]
      exact exists_head?_padded ..
    · simp only [← String.append_assoc]
      exact exists_getLast?_padded ..

variable {hour minute : Nat} {s : String}

/-- A spelling with blanks around it is what a text writes. -/
theorem writtenTime_of_spells {before after : Text}
    (hbefore : ∀ code ∈ before.codes, Text.isBlankCode code = true)
    (hafter : ∀ code ∈ after.codes, Text.isBlankCode code = true) (h : Spells hour minute s) :
    writtenTime (.text (before ++ (s : Text) ++ after)) = s.toList := by
  obtain ⟨⟨a, hfirst, ha⟩, b, hlast, hb⟩ := ends_of_spells h
  have hstrip : (before ++ (s : Text) ++ after).strip = s := by
    have hcodes : Text.trim Text.isBlankCode
        (before.codes ++ s.toList.map Char.toNat ++ after.codes) = s.toList.map Char.toNat :=
      Text.trim_between hbefore hafter (by rw [List.head?_map, hfirst]; rfl) ha
        (by rw [List.getLast?_map, hlast]; rfl) hb
    exact congrArg Text.mk hcodes
  rw [writtenTime, hstrip, Text.ofString, Text.chars?_ofChars]
  rfl

/-- A spelling of a time of day writes that time. -/
theorem timeOf?_of_spells (time : TimeOfDay) {before after : Text}
    (hbefore : ∀ code ∈ before.codes, Text.isBlankCode code = true)
    (hafter : ∀ code ∈ after.codes, Text.isBlankCode code = true)
    (h : Spells time.hour time.minute s) : timeOf? (before ++ (s : Text) ++ after) = some time := by
  obtain ⟨format, hclock⟩ := Calendar.clock?_of_spells time.hour_lt time.minute_lt h
  have hread := TimeFormat.read?_eq_some_iff.2 hclock
  rw [timeOf?, writtenTime_of_spells hbefore hafter h,
    TimeOfDay.read?_of_forall_mem TimeFormat.mem_all, ← TimeFormat.eq_pointedTo hread, hread]

theorem timeOf?_of_spelling (time : TimeOfDay) (h : Spells time.hour time.minute s) :
    timeOf? s = some time := by
  have hcodes : (⟨[]⟩ ++ (s : Text) ++ ⟨[]⟩ : Text) = s := congrArg Text.mk (List.append_nil _)
  have hblank : ∀ code ∈ (⟨[]⟩ : Text).codes, Text.isBlankCode code = true := by simp
  rw [← timeOf?_of_spells time hblank hblank h, hcodes]

/-- **Every spelling of a time of day is read as that time**, whatever blanks are around it. -/
theorem readTime_of_spelling (hhour : hour < 24) (hminute : minute < 60)
    (h : Spells hour minute s) {before after : Text}
    (hbefore : ∀ code ∈ before.codes, Text.isBlankCode code = true)
    (hafter : ∀ code ∈ after.codes, Text.isBlankCode code = true) :
    ∃ time, (readTime (.text (before ++ (s : Text) ++ after))).result = .ok time ∧
      time.millis = hour * 3600000 + minute * 60000 :=
  ⟨⟨hour, minute, hhour, hminute⟩,
    readTime_eq_ok_iff.2 (timeOf?_of_spells ⟨hour, minute, hhour, hminute⟩ hbefore hafter h), rfl⟩

/-- Five past noon on a leap day, which the figures `00` put into the year 2000, between an
ideographic blank and a line end; and half past midnight, at 0 in the morning. -/
theorem readTime_of_leap_day :
    (∃ time, (readTime (.text (⟨[0x3000]⟩ ++ ("00-02-29T12:05" : Text) ++ ⟨[10]⟩))).result =
        .ok time ∧ time.millis = 43500000) ∧
      ∃ time, (readTime (.text (⟨[]⟩ ++ ("0:30 aM" : Text) ++ ⟨[0x1f]⟩))).result = .ok time ∧
        time.millis = 1800000 := by
  have hleap : Spells 12 5 "00-02-29T12:05" :=
    @Spells.shortDated 12 5 ⟨2000, 2, 29⟩ (by decide) (by decide) (by decide)
  have hhalf : "aM".toLower = "am" := String.toList_inj.1 (String.toList_map.trans rfl)
  have hnight : Spells 0 30 "0:30 aM" :=
    @Spells.dial 0 30 1 0 " " "aM" (.inl rfl) (by decide) rfl (.inr rfl) hhalf
  exact ⟨readTime_of_spelling (by decide) (by decide) hleap (by decide) (by decide),
    readTime_of_spelling (by decide) (by decide) hnight (by decide) (by decide)⟩

end ZonePlan
