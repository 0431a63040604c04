/-
One text in several dialects.

Two dialects differ over three things only: halves of surrogate pairs that stand alone, how deep
containers nest, and how many digits a number may have.  What one of them reads another reads alike
if it admits at least as much in each of the three (`Writes.of_below`).  It need not admit as much
where nothing of the kind is written: `Value.Plain` says that no text in a value is broken and how
deep the value nests, and a plain value is read by every dialect that nests so deep
(`Writes.of_plain`).

A reader keeps each name of an object once.  Where every name is written once only, that changes
nothing (`Writes.of_namesOnce`): the value is the text as it stands.
-/
import Mathlib.Data.List.Induction
import ZonePlan.Proofs.Json.Grammar

namespace ZonePlan.Json

/-! ### Values -/

namespace Value

/-- Whether no object in a value has a name twice. -/
inductive NamesOnce : Value → Prop
  | null : NamesOnce .null
  | bool {b} : NamesOnce (.bool b)
  | int {n} : NamesOnce (.int n)
  | float {x} : NamesOnce (.float x)
  | text {t} : NamesOnce (.text t)
  | array {items} (hitems : ∀ v ∈ items, NamesOnce v) : NamesOnce (.array items)
  | object {fields} (hnames : (fields.map (·.1)).Nodup) (hfields : ∀ f ∈ fields, NamesOnce f.2) :
      NamesOnce (.object fields)

/-- Whether no text in a value is broken, and at most `n` containers stand in each other. -/
inductive Plain : (n : Nat) → Value → Prop
  | null {n} : Plain n .null
  | bool {n b} : Plain n (.bool b)
  | int {n i} : Plain n (.int i)
  | float {n x} : Plain n (.float x)
  | text {n t} (htext : t.isBroken = false) : Plain n (.text t)
  | array {n items} (hitems : ∀ v ∈ items, Plain n v) : Plain (n + 1) (.array items)
  | object {n fields} (hnames : ∀ f ∈ fields, f.1.isBroken = false)
      (hfields : ∀ f ∈ fields, Plain n f.2) : Plain (n + 1) (.object fields)

end Value

/-- Whether all names of a part and all of its values have a property. -/
def Part.All (name : Text → Prop) (value : Value → Prop) : Part → Prop
  | .value v => value v
  | .items vs => ∀ v ∈ vs, value v
  | .field f => name f.1 ∧ value f.2
  | .fields fs => ∀ f ∈ fs, name f.1 ∧ value f.2

section

variable {join : List (Text × Value) → List (Text × Value)} {dialect dialect' : Dialect}
  {s left : List Char} {part : Part}

/-! ### Repeated names -/

/-- Fields with each name once stay as they are. -/
theorem mergeRepeated_eq_self {fields : List (Text × Value)} (h : (fields.map (·.1)).Nodup) :
    mergeRepeated fields = fields := by
  -- From the end: the last field comes behind all others, since its name is new.
  unfold mergeRepeated
  induction fields using List.reverseRecOn with
  | nil => rfl
  | append_singleton before field ih =>
    rw [List.map_append, List.nodup_append] at h
    obtain ⟨hbefore, -, hdisjoint⟩ := h
    have hnew : before.any (·.1 = field.1) = false := by
      simp only [List.any_eq_false, decide_eq_true_eq]
      intro other hother heq
      exact hdisjoint _ (List.mem_map_of_mem hother) field.1 (by simp) heq
    rw [List.foldl_append, ih hbefore]
    simp only [List.foldl_cons, List.foldl_nil, hnew, Bool.false_eq_true, if_false]

/-- Where each name is written once, a text is read as it stands. -/
theorem Writes.of_namesOnce (h : Writes id dialect s part left)
    (hnames : part.All (fun _ => True) Value.NamesOnce) :
    Writes mergeRepeated dialect s part left := by
  induction h with
  | text htext => exact .text htext
  | leaf hstart hleaf => exact .leaf hstart hleaf
  | emptyArray hclose hempty => exact .emptyArray hclose hempty
  | array hopen hdepth _ ih =>
    cases hnames with | array hitems =>
    exact .array hopen hdepth (ih hitems)
  | emptyObject hclose hempty => exact .emptyObject hclose hempty
  | object hopen hdepth _ ih =>
    cases hnames with | object hnodup hfields =>
    rw [← mergeRepeated_eq_self hnodup]
    exact .object hopen hdepth (ih fun f hf => ⟨trivial, hfields f hf⟩)
  | lastItem _ hclose ih => exact .lastItem (ih (hnames _ List.mem_cons_self)) hclose
  | moreItems _ hcomma _ ih ih' =>
    obtain ⟨hitem, hitems⟩ := List.forall_mem_cons.1 hnames
    exact .moreItems (ih hitem) hcomma (ih' hitems)
  | field hname hcolon _ ih => exact .field hname hcolon (ih hnames.2)
  | lastField _ hclose ih => exact .lastField (ih (hnames _ List.mem_cons_self)) hclose
  | moreFields _ hcomma _ ih ih' =>
    obtain ⟨hfield, hfields⟩ := List.forall_mem_cons.1 hnames
    exact .moreFields (ih hfield) hcomma (ih' hfields)

/-! ### Dialects that admit more -/

/-- Whether one dialect admits no more than another. -/
structure Dialect.Below (dialect dialect' : Dialect) : Prop where
  lone : dialect.loneSurrogates = true → dialect'.loneSurrogates = true
  limits : dialect'.limitsFractions = true → dialect.limitsFractions = true
  depth : dialect.depth < dialect'.depth ∨ dialect.depth ≤ dialect'.depth ∧
    (dialect'.countsEmpty = true → dialect.countsEmpty = true)

namespace Dialect.Below

theorem takesEmpty (h : dialect.Below dialect') (hempty : dialect.TakesEmpty) :
    dialect'.TakesEmpty := by
  rcases h.depth with hlt | ⟨hle, hcounts⟩
  · exact .inl (Nat.zero_lt_of_lt hlt)
  · refine hempty.imp (fun hpos => Nat.lt_of_lt_of_le hpos hle) fun hfalse => ?_
    refine Bool.eq_false_iff.2 fun htrue => ?_
    rw [hcounts htrue] at hfalse
    cases hfalse

theorem depth_pos (h : dialect.Below dialect') (hpos : 0 < dialect.depth) :
    0 < dialect'.depth := by
  have hdepth := h.depth
  omega

theorem inside (h : dialect.Below dialect') (hpos : 0 < dialect.depth) :
    dialect.inside.Below dialect'.inside := by
  refine ⟨h.lone, h.limits, ?_⟩
  simp only [Dialect.inside]
  exact h.depth.imp (fun hlt => by omega) (And.imp_left fun hle => by omega)

end Dialect.Below

/-- What a dialect reads is read alike by one that admits more. -/
theorem Writes.of_below (h : Writes join dialect s part left) (hbelow : dialect.Below dialect') :
    Writes join dialect' s part left := by
  induction h generalizing dialect' with
  | text htext => exact .text (htext.of_lone fun hlone => .inl (hbelow.lone hlone))
  | leaf hstart hleaf => exact .leaf hstart (readLeaf_of_limits hleaf hbelow.limits)
  | emptyArray hclose hempty => exact .emptyArray hclose (hbelow.takesEmpty hempty)
  | array hopen hdepth _ ih =>
    exact .array hopen (hbelow.depth_pos hdepth) (ih (hbelow.inside hdepth))
  | emptyObject hclose hempty => exact .emptyObject hclose (hbelow.takesEmpty hempty)
  | object hopen hdepth _ ih =>
    exact .object hopen (hbelow.depth_pos hdepth) (ih (hbelow.inside hdepth))
  | lastItem _ hclose ih => exact .lastItem (ih hbelow) hclose
  | moreItems _ hcomma _ ih ih' => exact .moreItems (ih hbelow) hcomma (ih' hbelow)
  | field hname hcolon _ ih =>
    exact .field (hname.of_lone fun hlone => .inl (hbelow.lone hlone)) hcolon (ih hbelow)
  | lastField _ hclose ih => exact .lastField (ih hbelow) hclose
  | moreFields _ hcomma _ ih ih' => exact .moreFields (ih hbelow) hcomma (ih' hbelow)

/-- The dialect of files where the limit on digits holds for fractions as well: what it reads has no
number of more whole digits than are read. -/
def Dialect.short : Dialect := { Dialect.lenient with limitsFractions := true }

theorem Dialect.Below.strict_lenient : Dialect.strict.Below .lenient :=
  ⟨nofun, nofun, .inl (by decide)⟩

/-! ### Plain values -/

/-- Text that is not broken is read whether or not it might be. -/
theorem Quotes.of_unbroken {lone lone' : Bool} {codes : List Nat} (h : Quotes lone s codes left)
    (hwhole : Text.isBroken ⟨codes⟩ = false) : Quotes lone' s codes left :=
  h.of_lone fun _ => .inr fun code hcode => by
    simpa using List.any_eq_false.1 hwhole code hcode

/-- What is plain is read alike by every dialect that nests deep enough, if it is not stricter about
the lengths of numbers. -/
theorem Writes.of_plain {n : Nat} (h : Writes id dialect s part left)
    (hplain : part.All (fun name => name.isBroken = false) (Value.Plain n))
    (hdepth : n ≤ dialect'.depth)
    (hlimits : dialect'.limitsFractions = true → dialect.limitsFractions = true) :
    Writes id dialect' s part left := by
  have htakes : ∀ {n : Nat} {dialect : Dialect}, n + 1 ≤ dialect.depth → dialect.TakesEmpty :=
    fun hdepth => .inl (Nat.zero_lt_of_lt hdepth)
  -- Inside a container both dialects are one less deep, and so is what is plain.
  induction h generalizing dialect' n with
  | text htext =>
    cases hplain with | text hwhole =>
    exact .text (htext.of_unbroken hwhole)
  | leaf hstart hleaf => exact .leaf hstart (readLeaf_of_limits hleaf hlimits)
  | emptyArray hclose _ =>
    cases hplain
    exact .emptyArray hclose (htakes hdepth)
  | array hopen _ _ ih =>
    cases hplain with | array hitems =>
    exact .array hopen (Nat.zero_lt_of_lt hdepth) (ih hitems (Nat.le_sub_of_add_le hdepth) hlimits)
  | emptyObject hclose _ =>
    cases hplain
    exact .emptyObject hclose (htakes hdepth)
  | object hopen _ _ ih =>
    cases hplain with | object hnames hfields =>
    exact .object hopen (Nat.zero_lt_of_lt hdepth)
      (ih (fun f hf => ⟨hnames f hf, hfields f hf⟩) (Nat.le_sub_of_add_le hdepth) hlimits)
  | lastItem _ hclose ih =>
    exact .lastItem (ih (hplain _ List.mem_cons_self) hdepth hlimits) hclose
  | moreItems _ hcomma _ ih ih' =>
    obtain ⟨hitem, hitems⟩ := List.forall_mem_cons.1 hplain
    exact .moreItems (ih hitem hdepth hlimits) hcomma (ih' hitems hdepth hlimits)
  | field hname hcolon _ ih =>
    exact .field (hname.of_unbroken hplain.1) hcolon (ih hplain.2 hdepth hlimits)
  | lastField _ hclose ih =>
    exact .lastField (ih (hplain _ List.mem_cons_self) hdepth hlimits) hclose
  | moreFields _ hcomma _ ih ih' =>
    obtain ⟨hfield, hfields⟩ := List.forall_mem_cons.1 hplain
    exact .moreFields (ih hfield hdepth hlimits) hcomma (ih' hfields hdepth hlimits)

/-! ### Whole texts -/

namespace Denotes

variable {v : Value}

theorem of_namesOnce (h : Denotes id dialect s v) (hnames : v.NamesOnce) :
    Denotes mergeRepeated dialect s v :=
  let ⟨hstart, left, hwrites, hend⟩ := h
  ⟨hstart, left, hwrites.of_namesOnce hnames, hend⟩

theorem of_below (h : Denotes join dialect s v) (hbelow : dialect.Below dialect') :
    Denotes join dialect' s v :=
  let ⟨hstart, left, hwrites, hend⟩ := h
  ⟨hstart, left, hwrites.of_below hbelow, hend⟩

theorem of_plain {n : Nat} (h : Denotes id dialect s v) (hplain : v.Plain n)
    (hdepth : n ≤ dialect'.depth)
    (hlimits : dialect'.limitsFractions = true → dialect.limitsFractions = true) :
    Denotes id dialect' s v :=
  let ⟨hstart, left, hwrites, hend⟩ := h
  ⟨hstart, left, hwrites.of_plain hplain hdepth hlimits, hend⟩

end Denotes

end

end ZonePlan.Json
