/-
The level that is kept is named by its own name.

A level is looked up twice: when its name is checked, and again when the number is wanted, then by the
name that was kept.  Both look-ups bring the name to capitals, and the first also takes off blanks and
brings it to small letters.  What carries the proof is which letters the name of a level can have.
Its capitals are ASCII, so each of its letters is an ASCII letter or one of the two others with an
ASCII capital (`isLevelLetter_of_capital`); in small letters it has no capital, since no small letter
of anything is one (`not_isCapital_of_mem_lower`).  Such letters are their own small letters and are
no blanks, so that a name that was kept is read as itself.
-/
import ZonePlan.Settings.LogLevel

namespace ZonePlan

namespace Text

/-! ### Small letters -/

/-- The code points of the ASCII capitals. -/
def IsCapital (code : Nat) : Prop := 0x41 ≤ code ∧ code ≤ 0x5a

instance : DecidablePred IsCapital := fun _ => inferInstanceAs (Decidable (_ ∧ _))

/-- No row of the table reaches down to the ASCII capitals. -/
theorem lt_of_mem_capitals : ∀ row ∈ capitals, (0x5a : Int) < row.1 + row.2.2.2 := by
  decide +kernel

theorem not_isCapital_of_mem_lowerCode {code small : Nat} (h : small ∈ lowerCode code) :
    ¬IsCapital small := by
  unfold lowerCode at h
  unfold IsCapital
  split at h
  · rw [List.mem_singleton] at h
    split at h
    · omega
    · omega
  · split at h
    · simp only [List.mem_cons, List.not_mem_nil, or_false] at h
      omega
    · split at h
      · rename_i first last step distance hrow
        have hreach := lt_of_mem_capitals _ (List.mem_of_find?_eq_some hrow)
        have hfirst := List.find?_some hrow
        simp only [Bool.and_eq_true, decide_eq_true_eq] at hfirst
        rw [List.mem_singleton] at h
        simp only at hreach
        omega
      · rw [List.mem_singleton] at h
        omega

theorem not_isCapital_of_mem_lowerBehind {codes before : List Nat} {small : Nat}
    (h : small ∈ lowerBehind before codes) : ¬IsCapital small := by
  induction codes generalizing before with
  | nil => simp [lowerBehind] at h
  | cons code rest ih =>
    rw [lowerBehind, List.mem_append] at h
    rcases h with hcode | hrest
    · split at hcode
      · rw [List.mem_singleton, smallSigma] at hcode
        unfold IsCapital
        split at hcode
        · omega
        · omega
      · exact not_isCapital_of_mem_lowerCode hcode
    · exact ih hrest

/-- A text in small letters has no ASCII capital. -/
theorem not_isCapital_of_mem_lower {t : Text} {small : Nat} (h : small ∈ t.lower.codes) :
    ¬IsCapital small := not_isCapital_of_mem_lowerBehind h

/-- Small letters are kept: a text of which each code point is its own small letter. -/
theorem lower_eq_self {t : Text}
    (h : ∀ code ∈ t.codes, code ≠ capitalSigma ∧ lowerCode code = [code]) : t.lower = t := by
  obtain ⟨codes⟩ := t
  have hbehind : ∀ before, lowerBehind before codes = codes := by
    induction codes with
    | nil =>
      intro before
      rfl
    | cons code rest ih =>
      intro before
      obtain ⟨hsigma, hcode⟩ := h code List.mem_cons_self
      rw [lowerBehind, if_neg hsigma, hcode, ih fun c hc => h c (List.mem_cons_of_mem _ hc)]
      rfl
  exact congrArg Text.mk (hbehind [])

/-- A text without blanks is kept when blanks are taken off its ends. -/
theorem strip_eq_self {t : Text} (h : ∀ code ∈ t.codes, isBlankCode code = false) : t.strip = t := by
  have hdrop : ∀ {codes : List Nat}, (∀ code ∈ codes, isBlankCode code = false) →
      codes.dropWhile isBlankCode = codes := by
    intro codes hcodes
    cases codes with
    | nil => rfl
    | cons code rest => exact List.dropWhile_cons_of_neg (by simp [hcodes code])
  have hreverse : ∀ code ∈ t.codes.reverse, isBlankCode code = false := fun code hcode =>
    h code (List.mem_reverse.1 hcode)
  rw [strip, trim, hdrop h, hdrop hreverse, List.reverse_reverse]

end Text

namespace LogLevel

open Text (IsCapital isBlankCode lowerCode capitalSigma)

/-! ### The letters of levels -/

/-- The small letters of which the ASCII capitals are the capitals. -/
def IsLevelLetter (code : Nat) : Prop :=
  0x61 ≤ code ∧ code ≤ 0x7a ∨ code = 'ı'.toNat ∨ code = 'ſ'.toNat

/-- The names of levels are in ASCII capitals, and their numbers are six. -/
theorem of_mem_names : ∀ entry ∈ names, (∀ code ∈ entry.1.codes, IsCapital code) ∧
    entry.2 ∈ [0, 10, 20, 30, 40, 50] := by
  decide +kernel

theorem mem_names_of_number? {level : Text} {n : Nat} (h : number? level = some n) :
    (⟨level.codes.map capital⟩, n) ∈ names := by
  obtain ⟨before, after, hnames, -⟩ := List.lookup_eq_some_iff.1 h
  rw [hnames]
  exact List.mem_append_right _ List.mem_cons_self

theorem number?_mem {level : Text} {n : Nat} (h : number? level = some n) :
    n ∈ [0, 10, 20, 30, 40, 50] := (of_mem_names _ (mem_names_of_number? h)).2

theorem isLevelLetter_of_capital {code : Nat} (h : IsCapital (capital code))
    (hsmall : ¬IsCapital code) : IsLevelLetter code := by
  unfold capital at h
  split at h
  · rename_i hdotless
    exact .inr (.inl hdotless)
  · split at h
    · rename_i hlong
      exact .inr (.inr hlong)
    · split at h
      · rename_i hascii
        exact .inl hascii
      · exact absurd h hsmall

/-- A name without ASCII capitals that has a number consists of the letters of levels. -/
theorem isLevelLetter_of_number? {level : Text} {n : Nat} (h : number? level = some n)
    (hsmall : ∀ code ∈ level.codes, ¬IsCapital code) : ∀ code ∈ level.codes, IsLevelLetter code := by
  intro code hcode
  have hcapitals := (of_mem_names _ (mem_names_of_number? h)).1
  exact isLevelLetter_of_capital (hcapitals _ (List.mem_map_of_mem hcode)) (hsmall code hcode)

theorem isBlankCode_of_isLevelLetter {code : Nat} (h : IsLevelLetter code) :
    isBlankCode code = false := by
  rcases h with hascii | rfl | rfl
  · simp only [isBlankCode, Text.isSpaceCode, Bool.or_eq_false_iff, Bool.and_eq_false_iff,
      decide_eq_false_iff_not, beq_eq_false_iff_ne]
    omega
  · decide
  · decide

theorem lowerCode_of_isLevelLetter {code : Nat} (h : IsLevelLetter code) :
    code ≠ capitalSigma ∧ lowerCode code = [code] := by
  rcases h with hascii | rfl | rfl
  · have hcapital : ¬(0x41 ≤ code ∧ code ≤ 0x5a) := by omega
    constructor
    · unfold capitalSigma
      omega
    · rw [lowerCode, if_pos (by omega), if_neg hcapital]
  · decide +kernel
  · decide +kernel

/-- The letters of levels are kept when a name is normalized. -/
theorem normalize_eq_self {level : Text} (h : ∀ code ∈ level.codes, IsLevelLetter code) :
    level.strip = level ∧ normalize level = level := by
  have hstrip : level.strip = level :=
    Text.strip_eq_self fun code hcode => isBlankCode_of_isLevelLetter (h code hcode)
  constructor
  · exact hstrip
  · rw [normalize, hstrip]
    exact Text.lower_eq_self fun code hcode => lowerCode_of_isLevelLetter (h code hcode)

/-! ### Reading a level -/

/-- What is read consists of the letters of levels. -/
theorem isLevelLetter_of_read? {t level : Text} (h : read? t = some level) :
    ∀ code ∈ level.codes, IsLevelLetter code := by
  obtain ⟨n, hn⟩ := Option.isSome_iff_exists.1 (number?_isSome_of_read? h)
  refine isLevelLetter_of_number? hn ?_
  intro code hcode
  unfold read? at h
  split at h
  · cases h
    have hdefault : ∀ code ∈ default.codes, ¬IsCapital code := by decide
    exact hdefault code hcode
  · split at h
    · cases h
      exact Text.not_isCapital_of_mem_lower hcode
    · cases h

/-- A level that was read is read as itself. -/
theorem read?_of_read? {t level : Text} (h : read? t = some level) : read? level = some level := by
  have hsome := number?_isSome_of_read? h
  obtain ⟨hstrip, hnormalize⟩ := normalize_eq_self (isLevelLetter_of_read? h)
  have hne : level ≠ "" := by
    intro hempty
    rw [hempty] at hsome
    exact absurd hsome (by decide)
  rw [read?, hstrip, if_neg hne, hnormalize, if_pos hsome]

end LogLevel
end ZonePlan
