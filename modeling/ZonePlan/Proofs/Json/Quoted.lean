/-
What is written between quotes.

Behind its opening quote a text goes on up to the quote that closes it, and each character or escape
before that stands for one code point.  `Quotes` says so without the reader: it has one rule for
each kind of thing that may stand there.  Two escapes may stand for one code point, when they are
the halves of a surrogate pair; that is the only place where more than one of them is looked at.

`textCodes` reads just what is written so (`textCodes_eq_ok_iff`).  What follows is then said by
induction on the rules: it consumes something, it does not depend on whether lone surrogates are
taken if none is written, and it does not depend on how lines end, since no line ends inside quotes.
-/
import ZonePlan.Json.Reader
import ZonePlan.Proofs.Text.LineEnds

namespace ZonePlan.Json

open Text (unifyLineEnds unifyLineEnds_cons exists_cons_of_unifyLineEnds)

/-! ### Escapes by code point -/

/-- No line ends among the digits of a code point. -/
theorem ne_lineEnd_of_hexCode {a b c d : Char} {code : Nat} (h : hexCode? a b c d = some code) :
    a ≠ '\r' ∧ b ≠ '\r' ∧ c ≠ '\r' ∧ d ≠ '\r' := by
  have hne : ∀ {x : Char} {digit : Nat}, Text.hexDigit? x = some digit → x ≠ '\r' := by
    rintro x digit hx rfl
    have hnone : Text.hexDigit? '\r' = none := by decide
    rw [hnone] at hx
    cases hx
  simp only [hexCode?, Option.bind_eq_bind, Option.bind_eq_some_iff] at h
  obtain ⟨_, ha, _, hb, _, hc, _, hd, -⟩ := h
  exact ⟨hne ha, hne hb, hne hc, hne hd⟩

/-- The code point of a surrogate pair, and what follows it, if the second half of the pair stands
in front. -/
def secondHalf? (high : Nat) : List Char → Option (Nat × List Char)
  | '\\' :: 'u' :: e :: f :: g :: h :: i :: rest =>
    match hexCode? e f g h with
    | none => none
    | some low =>
      if isHighSurrogate high && isLowSurrogate low then some (joinSurrogates high low, i :: rest)
      else none
  | _ => none

theorem secondHalf?_escape (high : Nat) (e f g h i : Char) (rest : List Char) :
    secondHalf? high ('\\' :: 'u' :: e :: f :: g :: h :: i :: rest) =
      match hexCode? e f g h with
      | none => none
      | some low =>
        if isHighSurrogate high && isLowSurrogate low then some (joinSurrogates high low, i :: rest)
        else none := rfl

theorem secondHalf?_eq_none {high : Nat} {s : List Char}
    (h : ∀ e f g h i rest, s ≠ '\\' :: 'u' :: e :: f :: g :: h :: i :: rest) :
    secondHalf? high s = none := by
  unfold secondHalf?
  split
  · exact absurd rfl (h _ _ _ _ _ _)
  · rfl

/-- A pair has a second half, which stands in front of what follows the pair. -/
theorem secondHalf?_eq_some {high code : Nat} {s left : List Char}
    (h : secondHalf? high s = some (code, left)) : ∃ e f g h i rest low,
      s = '\\' :: 'u' :: e :: f :: g :: h :: left ∧ left = i :: rest ∧
        hexCode? e f g h = some low ∧
        (isHighSurrogate high && isLowSurrogate low) = true ∧ code = joinSurrogates high low := by
  unfold secondHalf? at h
  split at h
  · split at h
    · cases h
    · rename_i low hlow
      split at h
      · rename_i hpair
        obtain ⟨rfl, rfl⟩ := Prod.mk.inj (Option.some.inj h)
        exact ⟨_, _, _, _, _, _, low, rfl, rfl, hlow, hpair, rfl⟩
      · cases h
  · cases h

theorem length_of_secondHalf {high code : Nat} {s left : List Char}
    (h : secondHalf? high s = some (code, left)) : left.length < s.length := by
  obtain ⟨_, _, _, _, _, _, _, rfl, -⟩ := secondHalf?_eq_some h
  simp only [List.length_cons]
  omega

/-- Reading an escape by code point: it is the first half of a pair, or stands alone. -/
theorem textCodes_escape (dialect : Dialect) (opening : List Char) (a b c d e : Char)
    (rest : List Char) : textCodes dialect opening ('\\' :: 'u' :: a :: b :: c :: d :: e :: rest) =
      match hexCode? a b c d with
      | none => .error ⟨.invalidUnicodeEscape, 'u' :: a :: b :: c :: d :: e :: rest⟩
      | some code =>
        match secondHalf? code (e :: rest) with
        | some (joined, left) =>
          (textCodes dialect opening left).map fun (codes, left) => (joined :: codes, left)
        | none =>
          if Text.isSurrogate code && !dialect.loneSurrogates then
            .error ⟨.loneSurrogate, 'u' :: a :: b :: c :: d :: e :: rest⟩
          else (textCodes dialect opening (e :: rest)).map
            fun (codes, left) => (code :: codes, left) := by
  by_cases hescape : ∃ e' f g h i rest', e = '\\' ∧ rest = 'u' :: e' :: f :: g :: h :: i :: rest'
  · obtain ⟨e', f, g, h, i, rest', rfl, rfl⟩ := hescape
    rw [textCodes]
    rcases hexCode? a b c d with _ | code
    · rfl
    rcases hlow : hexCode? e' f g h with _ | low
    · simp only [secondHalf?_escape, hlow]
    · simp only [secondHalf?_escape, hlow]
      by_cases hpair : (isHighSurrogate code && isLowSurrogate low) = true
      · simp only [if_pos hpair]
      · simp only [if_neg hpair]
  · have hne : ∀ e' f g h i rest', e = '\\' →
        rest = 'u' :: e' :: f :: g :: h :: i :: rest' → False :=
      fun e' f g h i rest' he hrest => hescape ⟨e', f, g, h, i, rest', he, hrest⟩
    rw [textCodes]
    · rcases hexCode? a b c d with _ | code
      · rfl
      · have hnone : secondHalf? code (e :: rest) = none :=
          secondHalf?_eq_none fun e' f g h i rest' heq =>
            hne e' f g h i rest' (List.cons.inj heq).1 (List.cons.inj heq).2
        simp only [hnone]
    · exact hne

theorem textCodes_letter (dialect : Dialect) (opening : List Char) {c : Char} (hc : c ≠ 'u')
    (rest : List Char) : textCodes dialect opening ('\\' :: c :: rest) =
      match escaped? c with
      | none => .error ⟨.invalidEscape, '\\' :: c :: rest⟩
      | some code =>
        (textCodes dialect opening rest).map fun (codes, left) => (code :: codes, left) :=
  textCodes.eq_6 dialect opening c rest (fun _ _ _ _ _ _ _ _ _ _ h _ => hc h)
    (fun _ _ _ _ _ _ h _ => hc h) hc

theorem textCodes_character (dialect : Dialect) (opening : List Char) {c : Char} (hquote : c ≠ '"')
    (hslash : c ≠ '\\') (rest : List Char) : textCodes dialect opening (c :: rest) =
      if c.toNat < 0x20 then .error ⟨.controlCharacter, c :: rest⟩
      else (textCodes dialect opening rest).map
        fun (codes, left) => (c.toNat :: codes, left) := by
  rw [textCodes]
  · exact hquote
  · exact fun _ _ _ _ _ _ _ _ _ _ h _ => hslash h
  · exact fun _ _ _ _ _ _ h _ => hslash h
  · exact fun _ h _ => hslash h
  · exact fun _ _ h _ => hslash h
  · exact fun h _ => hslash h

/-! ### The rules -/

/-- What stands behind an opening quote: `s` writes the given code points up to its closing quote,
and what is left follows that. -/
inductive Quotes (lone : Bool) : (s : List Char) → List Nat → (left : List Char) → Prop
  | close {left} : Quotes lone ('"' :: left) [] left
  | character {c rest codes left} (hquote : c ≠ '"') (hslash : c ≠ '\\')
      (hcontrol : ¬c.toNat < 0x20) (hrest : Quotes lone rest codes left) :
      Quotes lone (c :: rest) (c.toNat :: codes) left
  | letter {c rest code codes left} (hc : c ≠ 'u') (hcode : escaped? c = some code)
      (hrest : Quotes lone rest codes left) : Quotes lone ('\\' :: c :: rest) (code :: codes) left
  | pair {a b c d rest high code after codes left} (hhigh : hexCode? a b c d = some high)
      (hpair : secondHalf? high rest = some (code, after)) (hafter : Quotes lone after codes left) :
      Quotes lone ('\\' :: 'u' :: a :: b :: c :: d :: rest) (code :: codes) left
  | single {a b c d rest code codes left} (hcode : hexCode? a b c d = some code)
      (hsingle : secondHalf? code rest = none) (hlone : Text.isSurrogate code = true → lone = true)
      (hrest : Quotes lone rest codes left) :
      Quotes lone ('\\' :: 'u' :: a :: b :: c :: d :: rest) (code :: codes) left

/-- What is read and then changed was read with the same left over. -/
theorem map_eq_ok {α β : Type} {f : α → β} {x : Except Stop (α × List Char)} {b : β}
    {left : List Char} : (x.map fun read => (f read.1, read.2)) = .ok (b, left) ↔
      ∃ a, x = .ok (a, left) ∧ f a = b := by
  rcases x with stop | ⟨a, left'⟩
  · simp [Except.map]
  · simp only [Except.map, Except.ok.injEq, Prod.mk.injEq]
    constructor
    · rintro ⟨hb, rfl⟩
      exact ⟨a, ⟨rfl, rfl⟩, hb⟩
    · rintro ⟨_, ⟨rfl, rfl⟩, hb⟩
      exact ⟨hb, rfl⟩

variable {dialect : Dialect} {opening s left : List Char} {codes : List Nat}

/-- Only an escape with a character behind it is read. -/
theorem exists_cons_of_escape {rest : List Char}
    (h : textCodes dialect opening ('\\' :: 'u' :: rest) = .ok (codes, left)) :
    ∃ a b c d e rest', rest = a :: b :: c :: d :: e :: rest' := by
  rcases rest with _ | ⟨a, _ | ⟨b, _ | ⟨c, _ | ⟨d, _ | ⟨e, rest⟩⟩⟩⟩⟩
  · cases h
  · cases h
  · cases h
  · cases h
  · cases h
  · exact ⟨a, b, c, d, e, rest, rfl⟩

theorem quotes_of_textCodes (h : textCodes dialect opening s = .ok (codes, left)) :
    Quotes dialect.loneSurrogates s codes left := by
  -- By length: behind a pair of escapes reading goes on at the end of the second.
  induction hn : s.length using Nat.strongRecOn generalizing s codes with
  | ind n ih =>
    subst hn
    rcases s with _ | ⟨c, rest⟩
    · cases h
    by_cases hquote : c = '"'
    · subst hquote
      obtain ⟨rfl, rfl⟩ := Prod.mk.inj (Except.ok.inj h)
      exact .close
    by_cases hslash : c = '\\'
    · subst hslash
      rcases rest with _ | ⟨c, rest⟩
      · cases h
      by_cases hc : c = 'u'
      · subst hc
        obtain ⟨a, b, c, d, e, rest, rfl⟩ := exists_cons_of_escape h
        rw [textCodes_escape] at h
        rcases hcode : hexCode? a b c d with _ | code
        · rw [hcode] at h
          cases h
        rcases hpair : secondHalf? code (e :: rest) with _ | ⟨joined, after⟩
        · simp only [hcode, hpair] at h
          split at h
          · cases h
          · rename_i hlone
            obtain ⟨more, hmore, rfl⟩ := map_eq_ok.1 h
            refine .single hcode hpair (fun hsurrogate => ?_)
              (ih _ (by simp only [List.length_cons]; omega) hmore rfl)
            simpa [hsurrogate] using hlone
        · simp only [hcode, hpair] at h
          obtain ⟨more, hmore, rfl⟩ := map_eq_ok.1 h
          have hshorter := length_of_secondHalf hpair
          refine .pair hcode hpair (ih _ ?_ hmore rfl)
          simp only [List.length_cons] at hshorter ⊢
          omega
      · rw [textCodes_letter _ _ hc] at h
        rcases hcode : escaped? c with _ | code
        · rw [hcode] at h
          cases h
        · rw [hcode] at h
          obtain ⟨more, hmore, rfl⟩ := map_eq_ok.1 h
          exact .letter hc hcode (ih _ (by simp only [List.length_cons]; omega) hmore rfl)
    · rw [textCodes_character _ _ hquote hslash] at h
      split at h
      · cases h
      · rename_i hcontrol
        obtain ⟨more, hmore, rfl⟩ := map_eq_ok.1 h
        exact .character hquote hslash hcontrol (ih _ (by simp) hmore rfl)

/-- Some character stands behind an opening quote. -/
theorem Quotes.exists_cons {lone : Bool} (h : Quotes lone s codes left) :
    ∃ c rest, s = c :: rest := by
  cases h <;> exact ⟨_, _, rfl⟩

theorem textCodes_of_quotes (h : Quotes dialect.loneSurrogates s codes left) :
    textCodes dialect opening s = .ok (codes, left) := by
  induction h with
  | close => rfl
  | character hquote hslash hcontrol _ ih =>
    rw [textCodes_character _ _ hquote hslash, if_neg hcontrol]
    exact map_eq_ok.2 ⟨_, ih, rfl⟩
  | letter hc hcode _ ih =>
    rw [textCodes_letter _ _ hc]
    simp only [hcode]
    exact map_eq_ok.2 ⟨_, ih, rfl⟩
  | pair hhigh hpair _ ih =>
    obtain ⟨_, _, _, _, _, _, _, rfl, -⟩ := secondHalf?_eq_some hpair
    rw [textCodes_escape]
    simp only [hhigh, hpair]
    exact map_eq_ok.2 ⟨_, ih, rfl⟩
  | single hcode hsingle hlone hrest ih =>
    obtain ⟨e, rest, rfl⟩ := hrest.exists_cons
    rw [textCodes_escape]
    simp only [hcode, hsingle]
    rw [if_neg (by simpa using hlone)]
    exact map_eq_ok.2 ⟨_, ih, rfl⟩

/-- **A text is read just if its quotes close, and as what is written between them.** -/
theorem textCodes_eq_ok_iff : textCodes dialect opening s = .ok (codes, left) ↔
    Quotes dialect.loneSurrogates s codes left :=
  ⟨quotes_of_textCodes, textCodes_of_quotes⟩

/-! ### What the rules keep -/

namespace Quotes

variable {lone lone' : Bool}

theorem length_lt (h : Quotes lone s codes left) : left.length < s.length := by
  induction h with
  | close => simp
  | character _ _ _ _ ih => exact Nat.lt_succ_of_lt ih
  | letter _ _ _ ih =>
    simp only [List.length_cons]
    omega
  | pair _ hpair _ ih =>
    have hshorter := length_of_secondHalf hpair
    simp only [List.length_cons]
    omega
  | single _ _ _ _ ih =>
    simp only [List.length_cons]
    omega

/-- Where no surrogate stands alone, it does not matter whether it might. -/
theorem of_lone (h : Quotes lone s codes left)
    (hlone : lone = true → lone' = true ∨ ∀ code ∈ codes, Text.isSurrogate code = false) :
    Quotes lone' s codes left := by
  have hrest : ∀ {code codes}, (lone = true → lone' = true ∨
      ∀ code' ∈ code :: codes, Text.isSurrogate code' = false) →
      lone = true → lone' = true ∨ ∀ code' ∈ codes, Text.isSurrogate code' = false :=
    fun h hlone => (h hlone).imp_right fun hall code hcode =>
      hall code (List.mem_cons_of_mem _ hcode)
  induction h with
  | close => exact .close
  | character hquote hslash hcontrol _ ih =>
    exact .character hquote hslash hcontrol (ih (hrest hlone))
  | letter hc hcode _ ih => exact .letter hc hcode (ih (hrest hlone))
  | pair hhigh hpair _ ih => exact .pair hhigh hpair (ih (hrest hlone))
  | single hcode hsingle hsurrogate _ ih =>
    refine .single hcode hsingle (fun hs => ?_) (ih (hrest hlone))
    rcases hlone (hsurrogate hs) with htrue | hall
    · exact htrue
    · rw [hall _ List.mem_cons_self] at hs
      cases hs

/-! ### Line ends -/

theorem ne_lineEnd_of_character {c : Char} (h : ¬c.toNat < 0x20) : c ≠ '\r' := by
  rintro rfl
  exact h (by decide)

theorem ne_lineEnd_of_letter {c : Char} {code : Nat} (h : escaped? c = some code) : c ≠ '\r' := by
  rintro rfl
  cases h

/-- An escape by code point keeps its place when line ends are unified. -/
theorem unifyLineEnds_escape {a b c d : Char} {code : Nat} (h : hexCode? a b c d = some code)
    (rest : List Char) : unifyLineEnds ('\\' :: 'u' :: a :: b :: c :: d :: rest) =
      '\\' :: 'u' :: a :: b :: c :: d :: unifyLineEnds rest := by
  obtain ⟨ha, hb, hc, hd⟩ := ne_lineEnd_of_hexCode h
  rw [unifyLineEnds_cons (by decide), unifyLineEnds_cons (by decide), unifyLineEnds_cons ha,
    unifyLineEnds_cons hb, unifyLineEnds_cons hc, unifyLineEnds_cons hd]

theorem secondHalf?_unifyLineEnds {high code : Nat} {after : List Char}
    (h : secondHalf? high s = some (code, after)) :
    secondHalf? high (unifyLineEnds s) = some (code, unifyLineEnds after) := by
  obtain ⟨_, _, _, _, i, rest, low, rfl, rfl, hlow, hpair, hcode⟩ := secondHalf?_eq_some h
  obtain ⟨i', rest', hi⟩ := exists_cons_of_unifyLineEnds i rest
  rw [unifyLineEnds_escape hlow, hi]
  simp only [secondHalf?_escape, hlow, hcode]
  exact if_pos hpair

/-- An escape that is no second half is none when line ends are unified. -/
theorem secondHalf?_escape_eq_none {high code : Nat} {a b c d i : Char} {rest : List Char}
    (hcode : hexCode? a b c d = some code)
    (h : secondHalf? high ('\\' :: 'u' :: a :: b :: c :: d :: i :: rest) = none) :
    secondHalf? high (unifyLineEnds ('\\' :: 'u' :: a :: b :: c :: d :: i :: rest)) = none := by
  obtain ⟨i', rest', hi⟩ := exists_cons_of_unifyLineEnds i rest
  rw [unifyLineEnds_escape hcode, hi]
  simp only [secondHalf?_escape, hcode] at h ⊢
  by_cases hpair : (isHighSurrogate high && isLowSurrogate code) = true
  · rw [if_pos hpair] at h
    cases h
  · exact if_neg hpair

theorem secondHalf?_unifyLineEnds_eq_none {high : Nat} (hs : Quotes lone s codes left)
    (h : secondHalf? high s = none) : secondHalf? high (unifyLineEnds s) = none := by
  cases hs with
  | close => rfl
  | character hquote hslash hcontrol _ =>
    rw [unifyLineEnds_cons (ne_lineEnd_of_character hcontrol)]
    exact secondHalf?_eq_none fun _ _ _ _ _ _ heq => hslash (List.cons.inj heq).1
  | letter hc hcode _ =>
    rw [unifyLineEnds_cons (by decide), unifyLineEnds_cons (ne_lineEnd_of_letter hcode)]
    exact secondHalf?_eq_none fun _ _ _ _ _ _ heq => hc (List.cons.inj (List.cons.inj heq).2).1
  | pair hhigh hpair _ =>
    obtain ⟨_, _, _, _, _, _, _, rfl, -⟩ := secondHalf?_eq_some hpair
    exact secondHalf?_escape_eq_none hhigh h
  | single hcode _ _ hrest =>
    obtain ⟨_, _, rfl⟩ := hrest.exists_cons
    exact secondHalf?_escape_eq_none hcode h

/-- No line ends between quotes, so that it does not matter how lines end. -/
theorem unifyLineEnds (h : Quotes lone s codes left) :
    Quotes lone (unifyLineEnds s) codes (unifyLineEnds left) := by
  induction h with
  | close =>
    rw [unifyLineEnds_cons (by decide)]
    exact .close
  | character hquote hslash hcontrol _ ih =>
    rw [unifyLineEnds_cons (ne_lineEnd_of_character hcontrol)]
    exact .character hquote hslash hcontrol ih
  | letter hc hcode _ ih =>
    rw [unifyLineEnds_cons (by decide), unifyLineEnds_cons (ne_lineEnd_of_letter hcode)]
    exact .letter hc hcode ih
  | pair hhigh hpair _ ih =>
    rw [unifyLineEnds_escape hhigh]
    exact .pair hhigh (secondHalf?_unifyLineEnds hpair) ih
  | single hcode hsingle hlone hrest ih =>
    rw [unifyLineEnds_escape hcode]
    exact .single hcode (secondHalf?_unifyLineEnds_eq_none hrest hsingle) hlone ih

end Quotes

end ZonePlan.Json
