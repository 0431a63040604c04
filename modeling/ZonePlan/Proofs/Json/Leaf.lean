/-
The values that hold no others.

A value that does not open with a quote or a bracket is a word or a number.  A number is cut into
its parts first (`numeral`), which is the same work in every dialect; a dialect then only decides
whether the parts are too long.  So what one dialect reads another reads alike unless it is stricter
about lengths, and since no line ends inside a word or a number, it does not matter how lines end.
-/
import Mathlib.Data.List.TakeWhile
import ZonePlan.Number.Reading
import ZonePlan.Proofs.Text.LineEnds

namespace ZonePlan.Json

open Text (unifyLineEnds unifyLineEnds_cons)

/-! ### The parts of a number -/

/-- The parts of a written number: its sign, and the digits of which it is put together. -/
structure Numeral where
  negative : Bool
  whole : List Char
  places : Option (List Char)
  exponent : Option Int
deriving DecidableEq

/-- Whether a number is written without places and exponent. -/
def Numeral.isWhole (n : Numeral) : Bool := n.places.isNone && n.exponent.isNone

/-- Whether a number has more digits than a dialect reads. -/
def Numeral.isTooLong (dialect : Dialect) (n : Numeral) : Bool :=
  longestNumber < n.whole.length && (n.isWhole || dialect.limitsFractions)

/-- What a written number denotes. -/
def Numeral.value (n : Numeral) : Value :=
  if n.isWhole then
    let size : Int := digitsValue n.whole
    .int (if n.negative then -size else size)
  else
    let places := n.places.getD []
    .float (.ofDecimal n.negative (digitsValue (n.whole ++ places))
      (n.exponent.getD 0 - places.length))

/-- Without places the digits stand as they are written. -/
theorem Numeral.value_of_exponent (negative : Bool) (whole : List Char) (exponent : Int) :
    (Numeral.mk negative whole none (some exponent)).value =
      .float (.ofDecimal negative (digitsValue whole) exponent) := by
  simp [Numeral.value, Numeral.isWhole]

/-- The parts of the number in front, and the rest. -/
def numeral (s : List Char) : Numeral × List Char :=
  let signed := Number.takeMinus s
  let whole := takeWhole signed.2
  let places := takeFraction whole.2
  let exponent := takeExponent places.2
  (⟨signed.1, whole.1, places.1, exponent.1⟩, exponent.2)

/-- A number is read by its parts. -/
theorem readNumber_eq_ok_iff {dialect : Dialect} {s left : List Char} {v : Value} :
    readNumber dialect s = .ok (v, left) ↔ (numeral s).1.whole ≠ [] ∧
      (numeral s).1.isTooLong dialect = false ∧ (numeral s).1.value = v ∧ (numeral s).2 = left := by
  unfold readNumber
  split
  rename_i negative unsigned hsigned
  have hminus : Number.takeMinus s = (negative, unsigned) := by
    rw [← hsigned]
    unfold Number.takeMinus
    split <;> simp_all
  simp only [numeral, hminus]
  rcases takeWhole unsigned with ⟨_ | ⟨digit, digits⟩, afterWhole⟩
  · simp
  simp only [Numeral.isTooLong, Numeral.value, Numeral.isWhole]
  split
  · rename_i hlong
    rw [hlong]
    simp
  · rename_i hshort
    rw [Bool.not_eq_true] at hshort
    rw [hshort]
    split <;> simp

/-! ### What the parts take -/

/-- The sign of an exponent, if it has one, and what follows. -/
def takeSign : List Char → Bool × List Char
  | '-' :: rest => (true, rest)
  | '+' :: rest => (false, rest)
  | rest => (false, rest)

theorem takeFraction_point (s : List Char) : takeFraction ('.' :: s) =
    if (takeDigits s).1 = [] then (none, '.' :: s)
    else (some (takeDigits s).1, (takeDigits s).2) := by
  cases s with
  | nil => rfl
  | cons c rest =>
    by_cases hc : c.isDigit = true
    · simp [takeFraction, takeDigits, hc]
    · simp [takeFraction, takeDigits, hc]

theorem takeFraction_other {c : Char} (hc : c ≠ '.') (rest : List Char) :
    takeFraction (c :: rest) = (none, c :: rest) := by
  unfold takeFraction
  split
  · rename_i heq
    exact absurd (List.cons.inj heq).1 hc
  · rfl

theorem takeExponent_mark {mark : Char} (hmark : mark = 'e' ∨ mark = 'E') (rest : List Char) :
    takeExponent (mark :: rest) =
      let digits := takeDigits (takeSign rest).2
      if digits.1 = [] then (none, mark :: rest)
      else
        let size : Int := digitsValue digits.1
        (some (if (takeSign rest).1 then -size else size), digits.2) := by
  unfold takeExponent
  refine (if_pos hmark).trans ?_
  split
  rename_i negative unsigned hsigned
  have hsign : takeSign rest = (negative, unsigned) := by
    rw [← hsigned]
    unfold takeSign
    split <;> simp_all
  rw [hsign]
  rcases takeDigits unsigned with ⟨_ | ⟨digit, digits⟩, left⟩
  · rfl
  · rfl

theorem takeExponent_other {c : Char} (hc : ¬(c = 'e' ∨ c = 'E')) (rest : List Char) :
    takeExponent (c :: rest) = (none, c :: rest) :=
  if_neg hc

theorem takeDigits_length (s : List Char) :
    (takeDigits s).1.length + (takeDigits s).2.length = s.length := by
  rw [← List.length_append, takeDigits, List.takeWhile_append_dropWhile]

theorem takeMinus_length_le (s : List Char) : (Number.takeMinus s).2.length ≤ s.length := by
  unfold Number.takeMinus
  split
  · exact Nat.le_succ _
  · exact Nat.le_refl _

theorem takeSign_length_le (s : List Char) : (takeSign s).2.length ≤ s.length := by
  unfold takeSign
  split
  · exact Nat.le_succ _
  · exact Nat.le_succ _
  · exact Nat.le_refl _

theorem takeWhole_length (s : List Char) :
    (takeWhole s).1.length + (takeWhole s).2.length = s.length := by
  unfold takeWhole
  split
  · exact Nat.add_comm ..
  · exact takeDigits_length s

theorem takeFraction_length_le (s : List Char) : (takeFraction s).2.length ≤ s.length := by
  rcases s with _ | ⟨c, rest⟩
  · exact Nat.le_refl _
  by_cases hc : c = '.'
  · have hdigits := takeDigits_length rest
    rw [hc, takeFraction_point]
    split
    · exact Nat.le_refl _
    · simp only [List.length_cons]
      omega
  · rw [takeFraction_other hc]

theorem takeExponent_length_le (s : List Char) : (takeExponent s).2.length ≤ s.length := by
  rcases s with _ | ⟨c, rest⟩
  · exact Nat.le_refl _
  by_cases hc : c = 'e' ∨ c = 'E'
  · have hsign := takeSign_length_le rest
    have hdigits := takeDigits_length (takeSign rest).2
    simp only [takeExponent_mark hc]
    split
    · exact Nat.le_refl _
    · simp only [List.length_cons]
      omega
  · rw [takeExponent_other hc]

/-- A number that has digits takes characters. -/
theorem length_of_numeral {s : List Char} (h : (numeral s).1.whole ≠ []) :
    (numeral s).2.length < s.length := by
  have hwhole := takeWhole_length (Number.takeMinus s).2
  have hdigits : 0 < (takeWhole (Number.takeMinus s).2).1.length := List.length_pos_iff.2 h
  have hminus := takeMinus_length_le s
  have hplaces := takeFraction_length_le (takeWhole (Number.takeMinus s).2).2
  have hexponent := takeExponent_length_le (takeFraction (takeWhole (Number.takeMinus s).2).2).2
  simp only [numeral]
  omega

/-! ### Line ends -/

/-- What cuts off the front of a text the same way however the lines of the text end. -/
def IgnoresLineEnds {α : Type} (cut : List Char → α × List Char) : Prop :=
  ∀ s, cut (unifyLineEnds s) = ((cut s).1, unifyLineEnds (cut s).2)

/-- What takes nothing off the end of a line needs to be looked at in front of other characters
only. -/
theorem IgnoresLineEnds.of_cons {α : Type} {cut : List Char → α × List Char} {nothing : α}
    (hnil : cut [] = (nothing, [])) (hreturn : ∀ rest, cut ('\r' :: rest) = (nothing, '\r' :: rest))
    (hfeed : ∀ rest, cut ('\n' :: rest) = (nothing, '\n' :: rest))
    (hcons : ∀ c rest, c ≠ '\r' →
      cut (c :: unifyLineEnds rest) = ((cut (c :: rest)).1, unifyLineEnds (cut (c :: rest)).2)) :
    IgnoresLineEnds cut := by
  intro s
  rcases s with _ | ⟨c, rest⟩
  · rw [unifyLineEnds, hnil]
    rfl
  by_cases hc : c = '\r'
  · subst hc
    obtain ⟨rest', hrest'⟩ := Text.exists_unifyLineEnds_return rest
    rw [hrest', hreturn, hfeed, hrest']
  · rw [unifyLineEnds_cons hc]
    exact hcons c rest hc

theorem takeDigits_ignoresLineEnds : IgnoresLineEnds takeDigits := by
  intro s
  induction s with
  | nil => rfl
  | cons c rest ih =>
    by_cases hc : c = '\r'
    · subst hc
      obtain ⟨rest', hrest'⟩ := Text.exists_unifyLineEnds_return rest
      have hreturn : takeDigits ('\r' :: rest) = ([], '\r' :: rest) := rfl
      rw [hreturn, hrest']
      rfl
    · have ih' := Prod.mk.inj ih
      rw [unifyLineEnds_cons hc]
      simp only [takeDigits, List.takeWhile_cons, List.dropWhile_cons]
      by_cases hdigit : c.isDigit = true
      · rw [if_pos hdigit, if_pos hdigit, if_pos hdigit, if_pos hdigit, ih'.1, ih'.2]
        rfl
      · rw [if_neg hdigit, if_neg hdigit, if_neg hdigit, if_neg hdigit, unifyLineEnds_cons hc]

theorem takeMinus_ignoresLineEnds : IgnoresLineEnds Number.takeMinus := by
  have hother : ∀ {c : Char} (rest : List Char), c ≠ '-' →
      Number.takeMinus (c :: rest) = (false, c :: rest) := by
    intro c rest hc
    unfold Number.takeMinus
    split
    · rename_i heq
      exact absurd (List.cons.inj heq).1 hc
    · rfl
  refine .of_cons rfl (fun _ => rfl) (fun _ => rfl) fun c rest hc => ?_
  by_cases hminus : c = '-'
  · subst hminus
    rfl
  · rw [hother _ hminus, hother _ hminus, unifyLineEnds_cons hc]

theorem takeSign_ignoresLineEnds : IgnoresLineEnds takeSign := by
  have hother : ∀ {c : Char} (rest : List Char), c ≠ '-' → c ≠ '+' →
      takeSign (c :: rest) = (false, c :: rest) := by
    intro c rest hminus hplus
    unfold takeSign
    split
    · rename_i heq
      exact absurd (List.cons.inj heq).1 hminus
    · rename_i heq
      exact absurd (List.cons.inj heq).1 hplus
    · rfl
  refine .of_cons rfl (fun _ => rfl) (fun _ => rfl) fun c rest hc => ?_
  by_cases hminus : c = '-'
  · subst hminus
    rfl
  by_cases hplus : c = '+'
  · subst hplus
    rfl
  · rw [hother _ hminus hplus, hother _ hminus hplus, unifyLineEnds_cons hc]

theorem takeWhole_ignoresLineEnds : IgnoresLineEnds takeWhole := by
  have hother : ∀ {c : Char} (rest : List Char), c ≠ '0' →
      takeWhole (c :: rest) = takeDigits (c :: rest) := by
    intro c rest hc
    unfold takeWhole
    split
    · rename_i heq
      exact absurd (List.cons.inj heq).1 hc
    · rfl
  refine .of_cons rfl (fun _ => rfl) (fun _ => rfl) fun c rest hc => ?_
  by_cases hzero : c = '0'
  · subst hzero
    rfl
  · rw [hother _ hzero, hother _ hzero, ← unifyLineEnds_cons hc, takeDigits_ignoresLineEnds]

theorem takeFraction_ignoresLineEnds : IgnoresLineEnds takeFraction := by
  refine .of_cons rfl (fun _ => rfl) (fun _ => rfl) fun c rest hc => ?_
  by_cases hpoint : c = '.'
  · subst hpoint
    rw [takeFraction_point, takeFraction_point, takeDigits_ignoresLineEnds]
    split
    · rw [unifyLineEnds_cons hc]
    · rfl
  · rw [takeFraction_other hpoint, takeFraction_other hpoint, unifyLineEnds_cons hc]

theorem takeExponent_ignoresLineEnds : IgnoresLineEnds takeExponent := by
  refine .of_cons rfl (fun _ => rfl) (fun _ => rfl) fun c rest hc => ?_
  by_cases hmark : c = 'e' ∨ c = 'E'
  · simp only [takeExponent_mark hmark, takeSign_ignoresLineEnds rest,
      takeDigits_ignoresLineEnds (takeSign rest).2]
    split
    · rw [unifyLineEnds_cons hc]
    · rfl
  · rw [takeExponent_other hmark, takeExponent_other hmark, unifyLineEnds_cons hc]

theorem numeral_ignoresLineEnds : IgnoresLineEnds numeral := by
  intro s
  simp only [numeral, takeMinus_ignoresLineEnds s, takeWhole_ignoresLineEnds (Number.takeMinus s).2,
    takeFraction_ignoresLineEnds (takeWhole (Number.takeMinus s).2).2,
    takeExponent_ignoresLineEnds (takeFraction (takeWhole (Number.takeMinus s).2).2).2]

/-! ### Words -/

/-- No word is empty, and no line ends inside one. -/
theorem words_plain : ∀ entry ∈ words,
    entry.1.toList ≠ [] ∧ '\r' ∉ entry.1.toList ∧ '\n' ∉ entry.1.toList := by
  decide +kernel

theorem isPrefixOf_unifyLineEnds {word : List Char} (hreturn : '\r' ∉ word) (hfeed : '\n' ∉ word)
    (s : List Char) : word.isPrefixOf (unifyLineEnds s) = word.isPrefixOf s ∧
      (word.isPrefixOf s = true →
        (unifyLineEnds s).drop word.length = unifyLineEnds (s.drop word.length)) := by
  induction word generalizing s with
  | nil => exact ⟨rfl, fun _ => rfl⟩
  | cons letter word ih =>
    rw [List.mem_cons, not_or] at hreturn hfeed
    rcases s with _ | ⟨c, s⟩
    · exact ⟨rfl, nofun⟩
    by_cases hc : c = '\r'
    · subst hc
      obtain ⟨rest, hrest⟩ := Text.exists_unifyLineEnds_return s
      have hno : (letter :: word).isPrefixOf ('\r' :: s) = false := by
        simp [List.isPrefixOf_cons_cons, Ne.symm hreturn.1]
      have hno' : (letter :: word).isPrefixOf ('\n' :: rest) = false := by
        simp [List.isPrefixOf_cons_cons, Ne.symm hfeed.1]
      rw [hrest, hno, hno']
      exact ⟨rfl, nofun⟩
    · obtain ⟨hfront, hdrop⟩ := ih hreturn.2 hfeed.2 s
      rw [unifyLineEnds_cons hc, List.isPrefixOf_cons_cons, List.isPrefixOf_cons_cons, hfront]
      refine ⟨rfl, fun h => hdrop ?_⟩
      exact (Bool.and_eq_true _ _ ▸ h).2

theorem readWord?_unifyLineEnds (s : List Char) :
    readWord? (unifyLineEnds s) = (readWord? s).map fun (v, left) => (v, unifyLineEnds left) := by
  have hwords : ∀ entry ∈ words,
      (if entry.1.toList.isPrefixOf (unifyLineEnds s) then
        some (entry.2, (unifyLineEnds s).drop entry.1.length) else none) =
      (if entry.1.toList.isPrefixOf s then some (entry.2, s.drop entry.1.length) else none).map
        fun (v, left) => (v, unifyLineEnds left) := by
    intro entry hentry
    obtain ⟨-, hreturn, hfeed⟩ := words_plain entry hentry
    obtain ⟨hfront, hdrop⟩ := isPrefixOf_unifyLineEnds hreturn hfeed s
    rw [hfront]
    split
    · rename_i hyes
      rw [← String.length_toList, hdrop hyes]
      rfl
    · rfl
  unfold readWord?
  generalize words = entries at hwords
  induction entries with
  | nil => rfl
  | cons entry rest ih =>
    obtain ⟨hfirst, hrest⟩ := List.forall_mem_cons.1 hwords
    dsimp only [List.findSome?_cons]
    rw [hfirst, ih hrest]
    by_cases hfront : entry.1.toList.isPrefixOf s = true
    · simp only [if_pos hfront, Option.map_some]
    · simp only [if_neg hfront, Option.map_none]

theorem length_of_readWord {s left : List Char} {v : Value} (h : readWord? s = some (v, left)) :
    left.length < s.length := by
  obtain ⟨⟨word, value⟩, hmem, hword⟩ := List.exists_of_findSome?_eq_some h
  obtain ⟨hne, -⟩ := words_plain _ hmem
  dsimp only at hword
  split at hword
  · rename_i hfront
    obtain ⟨-, rfl⟩ := Prod.mk.inj (Option.some.inj hword)
    have hbegins := List.isPrefixOf_iff_prefix.1 hfront
    have hlength := hbegins.length_le
    have hpos := List.length_pos_iff.2 hne
    simp only [String.length_toList] at hlength hpos
    rw [List.length_drop]
    omega
  · cases hword

/-! ### Both together -/

/-- Reads a word, or else a number. -/
def readLeaf (dialect : Dialect) (s : List Char) : Except Stop (Value × List Char) :=
  match readWord? s with
  | some read => .ok read
  | none => readNumber dialect s

theorem readLeaf_eq_ok_iff {dialect : Dialect} {s left : List Char} {v : Value} :
    readLeaf dialect s = .ok (v, left) ↔ readWord? s = some (v, left) ∨
      readWord? s = none ∧ readNumber dialect s = .ok (v, left) := by
  unfold readLeaf
  cases readWord? s <;> simp

section

variable {dialect dialect' : Dialect} {s left : List Char} {v : Value}

/-- A number with an exponent and without places is read by its digits, unless these are too many. -/
theorem readLeaf_of_exponent {negative : Bool} {whole : List Char} {exponent : Int}
    (hword : readWord? s = none) (h : numeral s = (⟨negative, whole, none, some exponent⟩, left))
    (hwhole : whole ≠ [])
    (hlimit : dialect.limitsFractions = true → whole.length ≤ longestNumber) :
    readLeaf dialect s = .ok (.float (.ofDecimal negative (digitsValue whole) exponent), left) := by
  rw [readLeaf_eq_ok_iff, readNumber_eq_ok_iff, h]
  refine .inr ⟨hword, hwhole, ?_, Numeral.value_of_exponent .., rfl⟩
  unfold Numeral.isTooLong
  cases hlimits : dialect.limitsFractions with
  | false => exact Bool.and_false _
  | true => simp [Nat.not_lt.2 (hlimit hlimits)]

theorem length_of_readLeaf (h : readLeaf dialect s = .ok (v, left)) : left.length < s.length := by
  rcases readLeaf_eq_ok_iff.1 h with hword | ⟨-, hnumber⟩
  · exact length_of_readWord hword
  · obtain ⟨hwhole, -, -, rfl⟩ := readNumber_eq_ok_iff.1 hnumber
    exact length_of_numeral hwhole

/-- What is no longer than one dialect reads is read alike by one that is not stricter about
lengths. -/
theorem readLeaf_of_limits (h : readLeaf dialect s = .ok (v, left))
    (hlimits : dialect'.limitsFractions = true → dialect.limitsFractions = true) :
    readLeaf dialect' s = .ok (v, left) := by
  rw [readLeaf_eq_ok_iff] at h ⊢
  refine h.imp_right fun ⟨hword, hnumber⟩ => ⟨hword, ?_⟩
  rw [readNumber_eq_ok_iff] at hnumber ⊢
  obtain ⟨hwhole, hlength, hvalue, hleft⟩ := hnumber
  refine ⟨hwhole, ?_, hvalue, hleft⟩
  unfold Numeral.isTooLong at hlength ⊢
  by_cases hdialect' : dialect'.limitsFractions = true
  · rwa [hdialect', ← hlimits hdialect']
  · rw [Bool.not_eq_true] at hdialect'
    simp only [hdialect', Bool.or_false]
    simp_all

theorem readLeaf_unifyLineEnds (h : readLeaf dialect s = .ok (v, left)) :
    readLeaf dialect (unifyLineEnds s) = .ok (v, unifyLineEnds left) := by
  rw [readLeaf_eq_ok_iff] at h ⊢
  rw [readWord?_unifyLineEnds]
  rcases h with hword | ⟨hword, hnumber⟩
  · exact .inl (by rw [hword]; rfl)
  · refine .inr ⟨by rw [hword]; rfl, ?_⟩
    rw [readNumber_eq_ok_iff] at hnumber ⊢
    obtain ⟨hwhole, hlength, hvalue, rfl⟩ := hnumber
    rw [numeral_ignoresLineEnds s]
    exact ⟨hwhole, hlength, hvalue, rfl⟩

end

end ZonePlan.Json
