/-
Laws of readers.

Two things are said about the ways in which a reader reads a text.  Whatever way it takes, it takes
a part off the front, and its value tells something about that part (`Takes`); this bounds what can
be read at all.  The preferred way is the one that counts, and of readers put together it is put
together from their preferred ways (`head?_pair`); this shows that a text is read, and as what.

Both are then given for figures.  `marks` are the characters of a part that are no figures.
-/
import ZonePlan.Calendar.TimeFormat

namespace ZonePlan.Calendar.Reader

variable {α β : Type}

/-! ### Whatever is read -/

/-- Whichever way a reader reads a text, it takes a part off its front, of which and of the value
something holds. -/
def Takes (r : Reader α) (P : List Char → α → Prop) : Prop :=
  ∀ s a rest, (a, rest) ∈ r s → ∃ part, s = part ++ rest ∧ P part a

namespace Takes

variable {r : Reader α} {q : Reader β} {P P' : List Char → α → Prop} {Q : List Char → β → Prop}

theorem weaken (h : Takes r P) (himp : ∀ part a, P part a → P' part a) : Takes r P' := by
  intro s a rest hway
  obtain ⟨part, hs, hpart⟩ := h s a rest hway
  exact ⟨part, hs, himp part a hpart⟩

theorem char (value? : Char → Option α) :
    Takes (Reader.char value?) fun part a => ∃ c, part = [c] ∧ value? c = some a := by
  rintro (_ | ⟨c, s⟩) a rest hway
  · exact absurd hway List.not_mem_nil
  · simp only [Reader.char, Option.mem_toList, Option.map_eq_some_iff, Prod.mk.injEq] at hway
    obtain ⟨a', ha, rfl, rfl⟩ := hway
    exact ⟨[c], rfl, c, rfl, ha⟩

theorem nothing : Takes Reader.nothing fun part _ => part = [] := by
  intro s a rest hway
  obtain ⟨-, rfl⟩ := Prod.mk.inj (List.mem_singleton.1 hway)
  exact ⟨[], rfl, rfl⟩

theorem pair (hr : Takes r P) (hq : Takes q Q) : Takes (Reader.pair r q) fun part x =>
    ∃ first second, part = first ++ second ∧ P first x.1 ∧ Q second x.2 := by
  rintro s ⟨a, b⟩ rest hway
  simp only [Reader.pair, List.mem_flatMap, List.mem_map, Prod.mk.injEq, Prod.exists] at hway
  obtain ⟨a', behind, hfirst, b', rest', hsecond, ⟨rfl, rfl⟩, rfl⟩ := hway
  obtain ⟨first, rfl, hP⟩ := hr _ _ _ hfirst
  obtain ⟨second, rfl, hQ⟩ := hq _ _ _ hsecond
  exact ⟨first ++ second, (List.append_assoc ..).symm, first, second, rfl, hP, hQ⟩

/-- What holds of the second part alone, whatever the first is. -/
theorem behind {Q : β → Prop} (hr : Takes r P) (hq : Takes q fun _ => Q) :
    Takes (Reader.pair r q) fun _ x => Q x.2 := by
  refine (hr.pair hq).weaken ?_
  rintro _ x ⟨_, _, -, -, hQ⟩
  exact hQ

theorem or {r' : Reader α} (hr : Takes r P) (hr' : Takes r' P) : Takes (Reader.or r r') P := by
  intro s a rest hway
  rcases List.mem_append.1 hway with hway | hway
  · exact hr s a rest hway
  · exact hr' s a rest hway

theorem map (hr : Takes r P) (f : α → β) (h : ∀ part a, P part a → Q part (f a)) :
    Takes (Reader.map f r) Q := by
  intro s b rest hway
  simp only [Reader.map, List.mem_map, Prod.mk.injEq, Prod.exists] at hway
  obtain ⟨a, rest', hway, rfl, rfl⟩ := hway
  obtain ⟨part, hs, hP⟩ := hr s a _ hway
  exact ⟨part, hs, h part a hP⟩

/-- When nothing is left over, the part that is taken is the text. -/
theorem of_whole? (hr : Takes r P) {s : List Char} {a : α} (h : r.whole? s = some a) : P s a := by
  unfold whole? at h
  split at h
  · rename_i a' ways hways
    obtain rfl := Option.some.inj h
    obtain ⟨part, rfl, hP⟩ := hr s a' [] (hways ▸ List.mem_cons_self)
    rwa [List.append_nil]
  · cases h

end Takes

/-! ### What is read in the preferred way -/

section

variable {r : Reader α} {q : Reader β} {s rest rest' : List Char} {a : α} {b : β}

theorem char_of_some {value? : Char → Option α} {c : Char} (h : value? c = some a) :
    char value? (c :: rest) = [(a, rest)] := by
  rw [char, h]
  rfl

theorem char_of_none {value? : Char → Option α} {c : Char} (h : value? c = none) :
    char value? (c :: rest) = [] := by
  rw [char, h]
  rfl

theorem head?_mark (c : Char) : (mark c (c :: rest)).head? = some ((), rest) := by
  rw [mark, char_of_some (if_pos rfl)]
  rfl

theorem head?_letter {c : Char} (d : Char) (h : d.toLower = c) :
    (letter c (d :: rest)).head? = some ((), rest) := by
  rw [letter, char_of_some (if_pos h)]
  rfl

theorem head?_pair (hr : (r s).head? = some (a, rest)) (hq : (q rest).head? = some (b, rest')) :
    (pair r q s).head? = some ((a, b), rest') := by
  obtain ⟨ways, hways⟩ := List.head?_eq_some_iff.1 hr
  obtain ⟨ways', hways'⟩ := List.head?_eq_some_iff.1 hq
  rw [pair, hways, List.flatMap_cons, List.head?_append]
  show (((q rest).map _).head?.or _) = _
  rw [hways']
  rfl

theorem head?_map (f : α → β) (hr : (r s).head? = some (a, rest)) :
    (map f r s).head? = some (f a, rest) := by
  rw [map, List.head?_map, hr]
  rfl

theorem head?_or {r' : Reader α} (hr : (r s).head? = some (a, rest)) :
    (or r r' s).head? = some (a, rest) := by
  rw [or, List.head?_append, hr]
  rfl

theorem or_of_nil {r' : Reader α} (hr : r s = []) : or r r' s = r' s := by
  rw [or, hr, List.nil_append]

/-- A text of which the preferred way leaves nothing over is read that way. -/
theorem whole?_of_head? (h : (r s).head? = some (a, [])) : r.whole? s = some a := by
  obtain ⟨ways, hways⟩ := List.head?_eq_some_iff.1 h
  rw [whole?, hways]

end

/-! ### Figures -/

theorem digit?_digitChar {d : Nat} (hd : d < 10) : Text.digit? d.digitChar = some d :=
  (by decide : ∀ d < 10, Text.digit? d.digitChar = some d) d hd

theorem asciiDigit?_eq_some_iff {c : Char} {d : Nat} :
    Text.asciiDigit? c = some d ↔ d < 10 ∧ c = d.digitChar := by
  constructor
  · intro h
    obtain ⟨⟨hlow, hhigh⟩, hd⟩ := Option.ite_none_right_eq_some.1 h
    have hlow : 48 ≤ c.toNat := hlow
    have hhigh : c.toNat ≤ 57 := hhigh
    obtain rfl := Option.some.inj hd
    have hlt : c.toNat - 0x30 < 10 := by omega
    refine ⟨hlt, Char.toNat_inj.1 ?_⟩
    rw [Nat.toNat_digitChar_of_lt_ten hlt]
    omega
  · rintro ⟨hd, rfl⟩
    exact (by decide : ∀ d < 10, Text.asciiDigit? d.digitChar = some d) d hd

/-- The characters of a text that are no figures. -/
def marks (s : List Char) : List Char := s.filter fun c => (Text.digit? c).isNone

@[simp] theorem marks_nil : marks [] = [] := rfl

@[simp] theorem marks_append (s t : List Char) : marks (s ++ t) = marks s ++ marks t :=
  List.filter_append ..

theorem marks_cons {c : Char} (h : Text.digit? c = none) (s : List Char) :
    marks (c :: s) = c :: marks s :=
  List.filter_cons_of_pos (by rw [h]; rfl)

theorem marks_figure {c : Char} {d : Nat} (h : Text.digit? c = some d) : marks [c] = [] :=
  List.filter_cons_of_neg (by rw [h]; exact Bool.false_ne_true)

/-- A part of figures alone whose value has a bound. -/
def Figures (most : Nat) (part : List Char) (value : Nat) : Prop := marks part = [] ∧ value ≤ most

theorem digit_takes : Takes digit (Figures 9) := by
  refine (Takes.char _).weaken ?_
  rintro part value ⟨c, rfl, hc⟩
  exact ⟨marks_figure hc, Nat.le_of_lt_succ (Text.digit?_lt hc)⟩

theorem digitIn_takes (low high : Nat) : Takes (digitIn low high) (Figures high) := by
  refine (Takes.char _).weaken ?_
  rintro part value ⟨c, rfl, hc⟩
  obtain ⟨hvalue, hrange⟩ := Option.filter_eq_some_iff.1 hc
  obtain ⟨hd, rfl⟩ := asciiDigit?_eq_some_iff.1 hvalue
  exact ⟨marks_figure (digit?_digitChar hd), of_decide_eq_true (Bool.and_eq_true_iff.1 hrange).2⟩

theorem tens_takes {first second : Reader Nat} {a b : Nat} (hfirst : Takes first (Figures a))
    (hsecond : Takes second (Figures b)) : Takes (tens first second) (Figures (10 * a + b)) := by
  refine (hfirst.pair hsecond).map _ ?_
  rintro part ⟨x, y⟩ ⟨before, behind, rfl, ⟨hbefore, hx⟩, hbehind, hy⟩
  refine ⟨by rw [marks_append, hbefore, hbehind, List.append_nil], ?_⟩
  show 10 * x + y ≤ 10 * a + b
  omega

theorem Takes.figures_le {r : Reader Nat} {a b : Nat} (h : Takes r (Figures a)) (hle : a ≤ b) :
    Takes r (Figures b) :=
  h.weaken fun _ _ hpart => ⟨hpart.1, Nat.le_trans hpart.2 hle⟩

theorem digit_digitChar {d : Nat} (hd : d < 10) (rest : List Char) :
    digit (d.digitChar :: rest) = [(d, rest)] :=
  char_of_some (digit?_digitChar hd)

theorem digitIn_digitChar {d : Nat} (hd : d < 10) (low high : Nat) (rest : List Char) :
    digitIn low high (d.digitChar :: rest) = if low ≤ d ∧ d ≤ high then [(d, rest)] else [] := by
  rw [digitIn, char, asciiDigit?_eq_some_iff.2 ⟨hd, rfl⟩, Option.filter_some]
  simp only [Bool.and_eq_true, decide_eq_true_eq]
  split <;> rfl

theorem tens_apply (first second : Reader Nat) (s : List Char) :
    tens first second s = (first s).flatMap fun (a, rest) =>
      (second rest).map fun (b, rest) => (10 * a + b, rest) := by
  rw [tens, map, pair, List.map_flatMap]
  simp only [List.map_map]
  rfl

theorem tens_of_nil {first : Reader Nat} {s : List Char} (h : first s = []) (second : Reader Nat) :
    tens first second s = [] := by
  rw [tens_apply, h, List.flatMap_nil]

theorem head?_tens {first second : Reader Nat} {s rest rest' : List Char} {a b : Nat}
    (hfirst : (first s).head? = some (a, rest)) (hsecond : (second rest).head? = some (b, rest')) :
    (tens first second s).head? = some (10 * a + b, rest') :=
  head?_map _ (head?_pair hfirst hsecond)

end ZonePlan.Calendar.Reader
