/-
What JSON text writes.

`Writes` says what the characters in front write, and what is left: it has one rule for each way in
which a value, the items of an array or the fields of an object may go on, and no fuel.  It leaves
open what an object makes of its fields (`join`).  With `mergeRepeated` it is what the reader does:
whatever the reader gives is written so (`writes_of_read`), and whatever is written so the reader
gives, the fuel that the length of the text bounds being enough (`isRead_of_writes`).  With the
identity it is the text as it stands, each object with its fields as they were written.
-/
import ZonePlan.Proofs.Json.Leaf
import ZonePlan.Proofs.Json.Quoted

namespace ZonePlan.Json

/-! ### Blanks -/

theorem skipGap_length_le (s : List Char) : (skipGap s).length ≤ s.length :=
  (List.dropWhile_suffix isGap).length_le

theorem length_of_separator {s next : List Char} {c : Char} (h : skipGap s = c :: next) :
    next.length < s.length := by
  have hle := skipGap_length_le s
  rw [h] at hle
  exact hle

/-- What follows a separator and blanks is shorter than what the separator stands in. -/
theorem length_after_separator {s next : List Char} {c : Char} (h : skipGap s = c :: next) :
    (skipGap next).length < s.length :=
  Nat.lt_of_le_of_lt (skipGap_length_le next) (length_of_separator h)

/-! ### Outcomes -/

theorem bind_eq_ok_iff {α β : Type} {x : Except Stop α} {f : α → Except Stop β} {b : β} :
    (x >>= f) = .ok b ↔ ∃ a, x = .ok a ∧ f a = .ok b := by
  cases x <;> simp [bind, Except.bind]

theorem mapError_eq_ok_iff {α ε ε' : Type} {x : Except ε α} {f : ε → ε'} {a : α} :
    x.mapError f = .ok a ↔ x = .ok a := by
  cases x <;> simp [Except.mapError]

theorem pure_eq_ok_iff {α β : Type} {a a' : α} {b b' : β} :
    (pure (a, b) : Except Stop (α × β)) = .ok (a', b') ↔ b = b' ∧ a = a' := by
  simp [pure, Except.pure, and_comm]

/-! ### Containers -/

/-- The dialect for what a container holds. -/
def Dialect.inside (dialect : Dialect) : Dialect := { dialect with depth := dialect.depth - 1 }

/-- Whether a dialect takes a container that holds nothing. -/
def Dialect.TakesEmpty (dialect : Dialect) : Prop := 0 < dialect.depth ∨ dialect.countsEmpty = false

/-- Whether a character opens a text or a container. -/
def isOpening (c : Char) : Bool := c = '"' || c = '[' || c = '\x7b'

section

variable {dialect dialect' : Dialect} {container : Container} {opening : List Char}

theorem enter_of_pos (h : 0 < dialect.depth) (isEmpty : Bool) :
    dialect.enter container isEmpty opening = .ok dialect.inside := by
  obtain ⟨depth, hdepth⟩ := Nat.exists_eq_add_of_lt h
  simp [Dialect.enter, Dialect.inside, hdepth]

theorem enter_full_eq_ok_iff : dialect.enter container false opening = .ok dialect' ↔
    0 < dialect.depth ∧ dialect.inside = dialect' := by
  rcases Nat.eq_zero_or_pos dialect.depth with hzero | hpos
  · simp [Dialect.enter, hzero]
  · simp [enter_of_pos hpos, hpos]

theorem exists_enter_empty_iff :
    (∃ dialect', dialect.enter container true opening = .ok dialect') ↔ dialect.TakesEmpty := by
  unfold Dialect.TakesEmpty
  rcases Nat.eq_zero_or_pos dialect.depth with hzero | hpos
  · cases hempty : dialect.countsEmpty <;> simp [Dialect.enter, hzero, hempty]
  · simp [enter_of_pos hpos, hpos]

/-- Reading a container: it is closed at once, or what it holds is read inside it. -/
theorem enter_eq_ok_iff {α : Type} {closing : Char} {inner left : List Char} {nothing a : α}
    {full : Dialect → Except Stop (α × List Char)} :
    (if inner.head? = some closing then
        dialect.enter container true opening >>= fun _ => .ok (nothing, inner.tail)
      else dialect.enter container false opening >>= full) = .ok (a, left) ↔
      inner = closing :: left ∧ dialect.TakesEmpty ∧ nothing = a ∨
        inner.head? ≠ some closing ∧ 0 < dialect.depth ∧ full dialect.inside = .ok (a, left) := by
  by_cases hclose : inner.head? = some closing
  · obtain ⟨left', rfl⟩ := List.head?_eq_some_iff.1 hclose
    rw [if_pos hclose, bind_eq_ok_iff, exists_and_right, exists_enter_empty_iff]
    simp only [List.tail_cons, List.cons.injEq, true_and, Except.ok.injEq, Prod.mk.injEq,
      List.head?_cons, ne_eq, not_true_eq_false, false_and, or_false]
    exact and_rotate.symm
  · have hopen : inner ≠ closing :: left := fun hinner => hclose (congrArg List.head? hinner)
    rw [if_neg hclose, bind_eq_ok_iff]
    simp only [enter_full_eq_ok_iff, hopen, hclose, false_and, false_or, ne_eq, not_false_eq_true,
      true_and]
    constructor
    · rintro ⟨_, ⟨hdepth, rfl⟩, hfull⟩
      exact ⟨hdepth, hfull⟩
    · rintro ⟨hdepth, hfull⟩
      exact ⟨_, ⟨hdepth, rfl⟩, hfull⟩

end

/-! ### One step of the reader -/

section

variable {dialect : Dialect} {fuel : Nat} {s rest left : List Char} {v : Value}

theorem readText_eq_ok_iff {codes : List Nat} :
    readText dialect ('"' :: rest) = .ok (⟨codes⟩, left) ↔
      Quotes dialect.loneSurrogates rest codes left := by
  have hcodes : textCodes dialect ('"' :: rest) rest = .ok (codes, left) ↔
      Quotes dialect.loneSurrogates rest codes left := textCodes_eq_ok_iff
  rw [← hcodes, readText, List.tail_cons]
  rcases textCodes dialect ('"' :: rest) rest with stop | ⟨codes', left'⟩
  · simp [Except.map]
  · simp [Except.map]

theorem readValue_text_eq_ok_iff : readValue dialect (fuel + 1) ('"' :: rest) = .ok (v, left) ↔
    ∃ codes, Quotes dialect.loneSurrogates rest codes left ∧ .text ⟨codes⟩ = v := by
  have hread : readValue dialect (fuel + 1) ('"' :: rest) =
      (readText dialect ('"' :: rest)).map fun read => (.text read.1, read.2) := rfl
  rw [hread, map_eq_ok]
  simp only [← readText_eq_ok_iff]
  exact ⟨fun ⟨t, h⟩ => ⟨t.codes, h⟩, fun ⟨codes, h⟩ => ⟨⟨codes⟩, h⟩⟩

theorem readValue_array : readValue dialect (fuel + 1) ('[' :: rest) =
    if (skipGap rest).head? = some ']' then
      dialect.enter .array true ('[' :: rest) >>= fun _ => .ok (.array [], (skipGap rest).tail)
    else dialect.enter .array false ('[' :: rest) >>= fun dialect =>
      (readItems dialect fuel (skipGap rest)).map fun read => (.array read.1, read.2) := by
  rw [readValue]
  by_cases hclose : (skipGap rest).head? = some ']'
  · obtain ⟨left, hgap⟩ := List.head?_eq_some_iff.1 hclose
    simp only [hgap]
    rfl
  · rw [if_neg hclose]
    simp only [hclose]
    refine congrArg _ (funext fun dialect => ?_)
    split
    · rename_i hgap
      exact absurd (congrArg List.head? hgap) hclose
    · cases readItems dialect fuel (skipGap rest) <;> rfl

theorem readValue_object : readValue dialect (fuel + 1) ('\x7b' :: rest) =
    if (skipGap rest).head? = some '\x7d' then
      dialect.enter .object true ('\x7b' :: rest) >>= fun _ => .ok (.object [], (skipGap rest).tail)
    else dialect.enter .object false ('\x7b' :: rest) >>= fun dialect =>
      (readFields dialect fuel (skipGap rest)).map
        fun read => (.object (mergeRepeated read.1), read.2) := by
  rw [readValue]
  by_cases hclose : (skipGap rest).head? = some '\x7d'
  · obtain ⟨left, hgap⟩ := List.head?_eq_some_iff.1 hclose
    simp only [hgap]
    rfl
  · rw [if_neg hclose]
    simp only [hclose]
    refine congrArg _ (funext fun dialect => ?_)
    split
    · rename_i hgap
      exact absurd (congrArg List.head? hgap) hclose
    · cases readFields dialect fuel (skipGap rest) <;> rfl

theorem readValue_array_eq_ok_iff : readValue dialect (fuel + 1) ('[' :: rest) = .ok (v, left) ↔
    skipGap rest = ']' :: left ∧ dialect.TakesEmpty ∧ .array [] = v ∨
      (skipGap rest).head? ≠ some ']' ∧ 0 < dialect.depth ∧ ∃ items,
        readItems dialect.inside fuel (skipGap rest) = .ok (items, left) ∧ .array items = v := by
  rw [readValue_array, enter_eq_ok_iff, map_eq_ok]

theorem readValue_object_eq_ok_iff :
    readValue dialect (fuel + 1) ('\x7b' :: rest) = .ok (v, left) ↔
    skipGap rest = '\x7d' :: left ∧ dialect.TakesEmpty ∧ .object [] = v ∨
      (skipGap rest).head? ≠ some '\x7d' ∧ 0 < dialect.depth ∧ ∃ fields,
        readFields dialect.inside fuel (skipGap rest) = .ok (fields, left) ∧
          .object (mergeRepeated fields) = v := by
  rw [readValue_object, enter_eq_ok_iff,
    map_eq_ok (f := fun fields => Value.object (mergeRepeated fields))]

theorem readValue_leaf (h : ∀ c ∈ s.head?, isOpening c = false) :
    readValue dialect (fuel + 1) s = readLeaf dialect s := by
  unfold readValue
  split
  · exact absurd (h '"' rfl) (by decide)
  · exact absurd (h '[' rfl) (by decide)
  · exact absurd (h '\x7b' rfl) (by decide)
  · unfold readLeaf
    rfl

theorem readItems_eq_ok_iff {items : List Value} :
    readItems dialect (fuel + 1) s = .ok (items, left) ↔ ∃ item mid,
      readValue dialect fuel s = .ok (item, mid) ∧
        (skipGap mid = ']' :: left ∧ [item] = items ∨ ∃ next rest, skipGap mid = ',' :: next ∧
          readItems dialect fuel (skipGap next) = .ok (rest, left) ∧ item :: rest = items) := by
  rw [readItems, bind_eq_ok_iff]
  constructor
  · rintro ⟨⟨item, mid⟩, hitem, h⟩
    refine ⟨item, mid, hitem, ?_⟩
    dsimp only at h
    split at h
    · rename_i hclose
      obtain ⟨rfl, hitems⟩ := pure_eq_ok_iff.1 h
      exact .inl ⟨hclose, hitems⟩
    · rename_i next hcomma
      obtain ⟨⟨rest, left'⟩, hrest, h⟩ := bind_eq_ok_iff.1 h
      obtain ⟨rfl, hitems⟩ := pure_eq_ok_iff.1 h
      exact .inr ⟨next, rest, hcomma, hrest, hitems⟩
    · cases h
  · rintro ⟨item, mid, hitem, ⟨hclose, rfl⟩ | ⟨next, rest, hcomma, hrest, rfl⟩⟩
    · refine ⟨_, hitem, ?_⟩
      simp only [hclose]
      rfl
    · refine ⟨_, hitem, ?_⟩
      simp only [hcomma, bind_eq_ok_iff]
      exact ⟨_, hrest, rfl⟩

/-- Whether a field is read: its name, a colon and its value. -/
def ReadsField (dialect : Dialect) (fuel : Nat) (s : List Char) (field : Text × Value)
    (left : List Char) : Prop :=
  ∃ rest mid next, s = '"' :: rest ∧ Quotes dialect.loneSurrogates rest field.1.codes mid ∧
    skipGap mid = ':' :: next ∧ readValue dialect fuel (skipGap next) = .ok (field.2, left)

theorem readFields_eq_ok_iff {fields : List (Text × Value)} :
    readFields dialect (fuel + 1) s = .ok (fields, left) ↔ ∃ field mid,
      ReadsField dialect fuel s field mid ∧
        (skipGap mid = '\x7d' :: left ∧ [field] = fields ∨ ∃ next rest, skipGap mid = ',' :: next ∧
          readFields dialect fuel (skipGap next) = .ok (rest, left) ∧ field :: rest = fields) := by
  constructor
  · intro h
    rcases s with _ | ⟨c, rest⟩
    · cases h
    by_cases hc : c = '"'
    · subst hc
      rw [readFields, bind_eq_ok_iff] at h
      obtain ⟨⟨name, mid⟩, hname, h⟩ := h
      dsimp only at h
      split at h
      · rename_i next hcolon
        obtain ⟨⟨value, mid'⟩, hvalue, h⟩ := bind_eq_ok_iff.1 h
        refine ⟨(name, value), mid', ⟨rest, mid, next, rfl, readText_eq_ok_iff.1 hname, hcolon,
          hvalue⟩, ?_⟩
        dsimp only at h
        split at h
        · rename_i hclose
          obtain ⟨rfl, hfields⟩ := pure_eq_ok_iff.1 h
          exact .inl ⟨hclose, hfields⟩
        · rename_i next' hcomma
          obtain ⟨⟨more, left'⟩, hmore, h⟩ := bind_eq_ok_iff.1 h
          obtain ⟨rfl, hfields⟩ := pure_eq_ok_iff.1 h
          exact .inr ⟨next', more, hcomma, hmore, hfields⟩
        · cases h
      · cases h
    · rw [readFields] at h
      · cases h
      · exact fun _ heq => hc (List.cons.inj heq).1
  · rintro ⟨⟨name, value⟩, mid', ⟨rest, mid, next, rfl, hname, hcolon, hvalue⟩, h⟩
    rw [readFields, bind_eq_ok_iff]
    refine ⟨_, readText_eq_ok_iff.2 hname, ?_⟩
    simp only [hcolon, bind_eq_ok_iff]
    refine ⟨_, hvalue, ?_⟩
    rcases h with ⟨hclose, rfl⟩ | ⟨next', more, hcomma, hmore, rfl⟩
    · simp only [hclose]
      rfl
    · simp only [hcomma, bind_eq_ok_iff]
      exact ⟨_, hmore, rfl⟩

end

/-! ### The rules -/

/-- What a stretch of JSON text writes: a value, the items of an array, a field, or the fields of an
object. -/
inductive Part where
  | value (v : Value)
  | items (vs : List Value)
  | field (f : Text × Value)
  | fields (fs : List (Text × Value))

/-- What stands in front of a text: `s` writes a part, and `left` follows it.  Items and fields are
written up to what closes their container.  An object is made of what `join` makes of its fields. -/
inductive Writes (join : List (Text × Value) → List (Text × Value)) :
    Dialect → (s : List Char) → Part → (left : List Char) → Prop
  | text {dialect rest codes left} (htext : Quotes dialect.loneSurrogates rest codes left) :
      Writes join dialect ('"' :: rest) (.value (.text ⟨codes⟩)) left
  | leaf {dialect s v left} (hstart : ∀ c ∈ s.head?, isOpening c = false)
      (hleaf : readLeaf dialect s = .ok (v, left)) : Writes join dialect s (.value v) left
  | emptyArray {dialect rest left} (hclose : skipGap rest = ']' :: left)
      (hempty : dialect.TakesEmpty) : Writes join dialect ('[' :: rest) (.value (.array [])) left
  | array {dialect rest vs left} (hopen : (skipGap rest).head? ≠ some ']')
      (hdepth : 0 < dialect.depth)
      (hitems : Writes join dialect.inside (skipGap rest) (.items vs) left) :
      Writes join dialect ('[' :: rest) (.value (.array vs)) left
  | emptyObject {dialect rest left} (hclose : skipGap rest = '\x7d' :: left)
      (hempty : dialect.TakesEmpty) :
      Writes join dialect ('\x7b' :: rest) (.value (.object [])) left
  | object {dialect rest fs left} (hopen : (skipGap rest).head? ≠ some '\x7d')
      (hdepth : 0 < dialect.depth)
      (hfields : Writes join dialect.inside (skipGap rest) (.fields fs) left) :
      Writes join dialect ('\x7b' :: rest) (.value (.object (join fs))) left
  | lastItem {dialect s v mid left} (hitem : Writes join dialect s (.value v) mid)
      (hclose : skipGap mid = ']' :: left) : Writes join dialect s (.items [v]) left
  | moreItems {dialect s v mid next vs left} (hitem : Writes join dialect s (.value v) mid)
      (hcomma : skipGap mid = ',' :: next)
      (hrest : Writes join dialect (skipGap next) (.items vs) left) :
      Writes join dialect s (.items (v :: vs)) left
  | field {dialect rest codes mid next v left}
      (hname : Quotes dialect.loneSurrogates rest codes mid) (hcolon : skipGap mid = ':' :: next)
      (hvalue : Writes join dialect (skipGap next) (.value v) left) :
      Writes join dialect ('"' :: rest) (.field (⟨codes⟩, v)) left
  | lastField {dialect s f mid left} (hfield : Writes join dialect s (.field f) mid)
      (hclose : skipGap mid = '\x7d' :: left) : Writes join dialect s (.fields [f]) left
  | moreFields {dialect s f mid next fs left} (hfield : Writes join dialect s (.field f) mid)
      (hcomma : skipGap mid = ',' :: next)
      (hrest : Writes join dialect (skipGap next) (.fields fs) left) :
      Writes join dialect s (.fields (f :: fs)) left

section

variable {join : List (Text × Value) → List (Text × Value)} {dialect : Dialect}
  {s left : List Char} {part : Part}

/-- Every part takes characters. -/
theorem Writes.length_lt (h : Writes join dialect s part left) : left.length < s.length := by
  induction h with
  | text htext => exact Nat.lt_succ_of_lt htext.length_lt
  | leaf _ hleaf => exact length_of_readLeaf hleaf
  | emptyArray hclose _ => exact Nat.lt_succ_of_lt (length_of_separator hclose)
  | array _ _ _ ih => exact Nat.lt_succ_of_lt (Nat.lt_of_lt_of_le ih (skipGap_length_le _))
  | emptyObject hclose _ => exact Nat.lt_succ_of_lt (length_of_separator hclose)
  | object _ _ _ ih => exact Nat.lt_succ_of_lt (Nat.lt_of_lt_of_le ih (skipGap_length_le _))
  | lastItem _ hclose ih => exact Nat.lt_trans (length_of_separator hclose) ih
  | moreItems _ hcomma _ ih ih' =>
    exact Nat.lt_trans (Nat.lt_trans ih' (length_after_separator hcomma)) ih
  | field hname hcolon _ ih =>
    exact Nat.lt_succ_of_lt
      (Nat.lt_trans (Nat.lt_trans ih (length_after_separator hcolon)) hname.length_lt)
  | lastField _ hclose ih => exact Nat.lt_trans (length_of_separator hclose) ih
  | moreFields _ hcomma _ ih ih' =>
    exact Nat.lt_trans (Nat.lt_trans ih' (length_after_separator hcomma)) ih

end

/-! ### The reader -/

theorem opening_cases (s : List Char) : (∀ c ∈ s.head?, isOpening c = false) ∨
    ∃ rest, s = '"' :: rest ∨ s = '[' :: rest ∨ s = '\x7b' :: rest := by
  rcases s with _ | ⟨c, rest⟩
  · exact .inl nofun
  by_cases hc : isOpening c = true
  · simp only [isOpening, Bool.or_eq_true, decide_eq_true_eq] at hc
    refine .inr ⟨rest, ?_⟩
    rcases hc with (rfl | rfl) | rfl <;> simp
  · refine .inl fun c' hc' => ?_
    obtain rfl := Option.some.inj hc'
    exact Bool.not_eq_true _ ▸ hc

/-- Whatever is read is written. -/
theorem writes_of_read (fuel : Nat) :
    (∀ dialect s v left, readValue dialect fuel s = .ok (v, left) →
      Writes mergeRepeated dialect s (.value v) left) ∧
    (∀ dialect s vs left, readItems dialect fuel s = .ok (vs, left) →
      Writes mergeRepeated dialect s (.items vs) left) ∧
    ∀ dialect s fs left, readFields dialect fuel s = .ok (fs, left) →
      Writes mergeRepeated dialect s (.fields fs) left := by
  -- The three readers call each other with one fuel less, so all three are taken together.
  induction fuel with
  | zero => exact ⟨nofun, nofun, nofun⟩
  | succ fuel ih =>
    obtain ⟨hvalue, hitems, hfields⟩ := ih
    refine ⟨fun dialect s v left h => ?_, fun dialect s vs left h => ?_,
      fun dialect s fs left h => ?_⟩
    · rcases opening_cases s with hstart | ⟨rest, rfl | rfl | rfl⟩
      · exact .leaf hstart (readValue_leaf hstart ▸ h)
      · obtain ⟨codes, htext, rfl⟩ := readValue_text_eq_ok_iff.1 h
        exact .text htext
      · rcases readValue_array_eq_ok_iff.1 h with ⟨hclose, hempty, rfl⟩ |
          ⟨hopen, hdepth, vs, hread, rfl⟩
        · exact .emptyArray hclose hempty
        · exact .array hopen hdepth (hitems _ _ _ _ hread)
      · rcases readValue_object_eq_ok_iff.1 h with ⟨hclose, hempty, rfl⟩ |
          ⟨hopen, hdepth, fs, hread, rfl⟩
        · exact .emptyObject hclose hempty
        · exact .object hopen hdepth (hfields _ _ _ _ hread)
    · obtain ⟨item, mid, hitem, ⟨hclose, rfl⟩ | ⟨next, rest, hcomma, hrest, rfl⟩⟩ :=
        readItems_eq_ok_iff.1 h
      · exact .lastItem (hvalue _ _ _ _ hitem) hclose
      · exact .moreItems (hvalue _ _ _ _ hitem) hcomma (hitems _ _ _ _ hrest)
    · obtain ⟨field, mid, ⟨rest, mid', next, rfl, hname, hcolon, hread⟩, hend⟩ :=
        readFields_eq_ok_iff.1 h
      have hfield := Writes.field hname hcolon (hvalue _ _ _ _ hread)
      rcases hend with ⟨hclose, rfl⟩ | ⟨next, rest, hcomma, hrest, rfl⟩
      · exact .lastField hfield hclose
      · exact .moreFields hfield hcomma (hfields _ _ _ _ hrest)

/-- Whether a part is read with all fuel that its text needs: two calls for each character, and one
more where items or fields are begun without taking one. -/
def Part.IsRead (dialect : Dialect) (s left : List Char) : Part → Prop
  | .value v => ∀ fuel, 2 * s.length ≤ fuel → readValue dialect fuel s = .ok (v, left)
  | .items vs => ∀ fuel, 2 * s.length < fuel → readItems dialect fuel s = .ok (vs, left)
  | .field f => ∀ fuel, 2 * s.length ≤ fuel → ReadsField dialect fuel s f left
  | .fields fs => ∀ fuel, 2 * s.length < fuel → readFields dialect fuel s = .ok (fs, left)

/-- Whatever is written is read. -/
theorem isRead_of_writes {dialect : Dialect} {s left : List Char} {part : Part}
    (h : Writes mergeRepeated dialect s part left) : part.IsRead dialect s left := by
  -- A container takes a character and two calls, its own and that of what it holds.
  have hsome : ∀ {c : Char} {rest : List Char} {fuel : Nat}, 2 * (c :: rest).length ≤ fuel →
      ∃ fuel', fuel = fuel' + 1 ∧ 2 * (skipGap rest).length < fuel' := by
    intro c rest fuel hfuel
    have hgap := skipGap_length_le rest
    rw [List.length_cons] at hfuel
    exact ⟨fuel - 1, by omega, by omega⟩
  have hmore : ∀ {s : List Char} {fuel : Nat}, 2 * s.length < fuel →
      ∃ fuel', fuel = fuel' + 1 ∧ 2 * s.length ≤ fuel' :=
    fun hfuel => ⟨_, (Nat.succ_pred_eq_of_pos (Nat.zero_lt_of_lt hfuel)).symm,
      Nat.le_pred_of_lt hfuel⟩
  induction h with
  | text htext =>
    intro fuel hfuel
    obtain ⟨fuel, rfl, -⟩ := hsome hfuel
    exact readValue_text_eq_ok_iff.2 ⟨_, htext, rfl⟩
  | leaf hstart hleaf =>
    intro fuel hfuel
    obtain ⟨fuel, rfl⟩ : ∃ fuel', fuel = fuel' + 1 := by
      have hlength := length_of_readLeaf hleaf
      exact ⟨fuel - 1, by omega⟩
    rw [readValue_leaf hstart]
    exact hleaf
  | emptyArray hclose hempty =>
    intro fuel hfuel
    obtain ⟨fuel, rfl, -⟩ := hsome hfuel
    exact readValue_array_eq_ok_iff.2 (.inl ⟨hclose, hempty, rfl⟩)
  | array hopen hdepth _ ih =>
    intro fuel hfuel
    obtain ⟨fuel, rfl, hinner⟩ := hsome hfuel
    exact readValue_array_eq_ok_iff.2 (.inr ⟨hopen, hdepth, _, ih fuel hinner, rfl⟩)
  | emptyObject hclose hempty =>
    intro fuel hfuel
    obtain ⟨fuel, rfl, -⟩ := hsome hfuel
    exact readValue_object_eq_ok_iff.2 (.inl ⟨hclose, hempty, rfl⟩)
  | object hopen hdepth _ ih =>
    intro fuel hfuel
    obtain ⟨fuel, rfl, hinner⟩ := hsome hfuel
    exact readValue_object_eq_ok_iff.2 (.inr ⟨hopen, hdepth, _, ih fuel hinner, rfl⟩)
  | lastItem _ hclose ih =>
    intro fuel hfuel
    obtain ⟨fuel, rfl, hitem⟩ := hmore hfuel
    exact readItems_eq_ok_iff.2 ⟨_, _, ih fuel hitem, .inl ⟨hclose, rfl⟩⟩
  | moreItems hitem hcomma _ ih ih' =>
    intro fuel hfuel
    obtain ⟨fuel, rfl, hfirst⟩ := hmore hfuel
    have hmid := hitem.length_lt
    have hrest := length_after_separator hcomma
    exact readItems_eq_ok_iff.2
      ⟨_, _, ih fuel hfirst, .inr ⟨_, _, hcomma, ih' fuel (by omega), rfl⟩⟩
  | field hname hcolon _ ih =>
    intro fuel hfuel
    have hmid := hname.length_lt
    have hnext := length_after_separator hcolon
    rw [List.length_cons] at hfuel
    exact ⟨_, _, _, rfl, hname, hcolon, ih fuel (by omega)⟩
  | lastField _ hclose ih =>
    intro fuel hfuel
    obtain ⟨fuel, rfl, hfield⟩ := hmore hfuel
    exact readFields_eq_ok_iff.2 ⟨_, _, ih fuel hfield, .inl ⟨hclose, rfl⟩⟩
  | moreFields hfield hcomma _ ih ih' =>
    intro fuel hfuel
    obtain ⟨fuel, rfl, hfirst⟩ := hmore hfuel
    have hmid := hfield.length_lt
    have hrest := length_after_separator hcomma
    exact readFields_eq_ok_iff.2
      ⟨_, _, ih fuel hfirst, .inr ⟨_, _, hcomma, ih' fuel (by omega), rfl⟩⟩

/-! ### Whole texts -/

/-- Whether a whole text writes a value: nothing but blanks may stand around it. -/
def Denotes (join : List (Text × Value) → List (Text × Value)) (dialect : Dialect) (s : List Char)
    (v : Value) : Prop :=
  s.head? ≠ some '\ufeff' ∧
    ∃ left, Writes join dialect (skipGap s) (.value v) left ∧ skipGap left = []

/-- **A text is read just as what it writes, each object with every name once and the last of its
values.** -/
theorem read_eq_ok_iff {dialect : Dialect} {s : List Char} {v : Value} :
    read dialect s = .ok v ↔ Denotes mergeRepeated dialect s v := by
  have hfuel : 2 * (skipGap s).length ≤ 2 * s.length + 2 := by
    have hgap := skipGap_length_le s
    omega
  unfold read Denotes
  split
  · simp [Except.mapError]
  · rename_i hmark
    have hstart : s.head? ≠ some '\ufeff' := by
      intro hhead
      obtain ⟨rest, hs⟩ := List.head?_eq_some_iff.1 hhead
      exact hmark rest hs
    rw [mapError_eq_ok_iff, bind_eq_ok_iff]
    refine Iff.trans ?_ (and_iff_right hstart).symm
    constructor
    · rintro ⟨⟨v', left⟩, hread, hend⟩
      dsimp only at hend
      split at hend
      · rename_i hblank
        obtain rfl := Except.ok.inj hend
        exact ⟨left, (writes_of_read _).1 _ _ _ _ hread, hblank⟩
      · cases hend
    · rintro ⟨left, hwrites, hblank⟩
      refine ⟨_, isRead_of_writes hwrites _ hfuel, ?_⟩
      simp only [hblank]
      rfl

end ZonePlan.Json
