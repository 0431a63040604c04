/-
Which trees are documents.

A tree that passes the check of a document has no fields but those that were checked, and each of
these is a scalar or again such a tree.  So a tree that passes is plain and six containers deep at
most, whatever else might have stood in it (`plain_of_check`).  And whether it was read from text or
decoded before makes no difference to what passes (`check_text_eq_fits_iff`): the two readings
differ in the wording of faults, and in the fault of a whole number beyond all doubles, which is
refused as not finite in one and as no number in the other.
-/
import Mathlib.Data.List.Nodup
import ZonePlan.Document.Check
import ZonePlan.Proofs.Check.Tree
import ZonePlan.Proofs.Json.Dialect

namespace ZonePlan

namespace Check

open Checked Json

variable {α : Type} {n : Nat} {v : Value}

/-! ### Scalars -/

theorem unbroken_of_characters {t : Text} {read : List Char → Except Misfit α} {a : α}
    (h : (characters t).bind read = .ok a) : t.isBroken = false := by
  unfold characters Text.chars? at h
  cases hbroken : t.isBroken with
  | false => rfl
  | true =>
    rw [hbroken] at h
    cases h

/-- A reader of scalars that takes texts by their characters, and no containers, takes plain values
only. -/
theorem plain_of_scalar {read : Value → Except Misfit α} {a : α} (h : read v = .ok a)
    (htext : ∀ t, read (.text t) = .ok a → t.isBroken = false)
    (harray : ∀ items, read (.array items) ≠ .ok a)
    (hobject : ∀ fields, read (.object fields) ≠ .ok a) : v.Plain n := by
  cases v with
  | null => exact .null
  | bool b => exact .bool
  | int i => exact .int
  | float x => exact .float
  | text t => exact .text (htext t h)
  | array items => exact absurd h (harray items)
  | object fields => exact absurd h (hobject fields)

theorem plain_of_text {least : Nat} {most : Option Nat} {s : String}
    (h : text least most v = .ok s) : v.Plain n :=
  plain_of_scalar h (fun _ => unbroken_of_characters) (fun _ => nofun) fun _ => nofun

theorem plain_of_truth {b : Bool} (h : truth v = .ok b) : v.Plain n :=
  plain_of_scalar h (fun _ => unbroken_of_characters) (fun _ => nofun) fun _ => nofun

theorem plain_of_wholeFrom {least i : Int} (h : wholeFrom least v = .ok i) : v.Plain n := by
  unfold wholeFrom at h
  split at h
  · rename_i hwhole
    exact plain_of_scalar hwhole (fun _ => unbroken_of_characters) (fun _ => nofun) fun _ => nofun
  · cases h

theorem finiteNumber_eq_ok_iff {reading : Reading} {x : FiniteDouble} :
    finiteNumber reading v = .ok x ↔ number reading v = .ok (.finite x) := by
  unfold finiteNumber
  split <;> simp_all

theorem plain_of_finiteNumber {reading : Reading} {x : FiniteDouble}
    (h : finiteNumber reading v = .ok x) : v.Plain n :=
  plain_of_scalar (finiteNumber_eq_ok_iff.1 h) (fun _ => unbroken_of_characters) (fun _ => nofun)
    fun _ => nofun

/-- A finite number is read alike from text and decoded before: only infinite ones are not. -/
theorem finiteNumber_text_eq_ok_iff {x : FiniteDouble} :
    finiteNumber .text v = .ok x ↔ finiteNumber .decoded v = .ok x := by
  rw [finiteNumber_eq_ok_iff, finiteNumber_eq_ok_iff]
  cases v with
  | int i =>
    show nearestDouble .text (.ofInt i) = _ ↔ nearestDouble .decoded (.ofInt i) = _
    generalize Double.ofInt i = nearest
    cases nearest <;> simp [nearestDouble]
  | _ => exact Iff.rfl

/-! ### Fields -/

/-- Where names differ, each field is found by its name. -/
theorem lookup_of_mem {fields : Fields} (hnames : (fields.map (·.1)).Nodup) {f : Text × Value}
    (hf : f ∈ fields) : Value.lookup fields f.1 = some f.2 := by
  unfold Value.lookup
  rcases hfound : fields.reverse.find? (fun field => decide (field.1 = f.1)) with _ | found
  · have hnot := List.find?_eq_none.1 hfound f (List.mem_reverse.2 hf)
    exact absurd (decide_eq_true rfl) hnot
  · have hname : found.1 = f.1 := by simpa using List.find?_some hfound
    have hmem := List.mem_reverse.1 (List.mem_of_find?_eq_some hfound)
    rw [hfound, List.inj_on_of_nodup_map hnames hmem hf hname]
    rfl

theorem exists_name_of_noOthers {names : List String} {fields : Fields} {u : Unit}
    (h : noOthers names fields = .fits u) {f : Text × Value} (hf : f ∈ fields) :
    ∃ name ∈ names, f.1 = (name : Text) := by
  unfold noOthers at h
  split at h
  · rename_i hnone
    have hf := List.filter_eq_nil_iff.1 hnone f hf
    simpa using hf
  · cases h

/-- An object without other fields than named ones is plain if these hold plain values. -/
theorem plain_of_noOthers {names : List String} {fields : Fields} {u : Unit}
    (h : noOthers names fields = .fits u) (hnames : (fields.map (·.1)).Nodup)
    (hwhole : fields.any (·.1.isBroken) = false)
    (hfields : ∀ name ∈ names, ∀ v ∈ Value.lookup fields name, v.Plain n) :
    (Value.object fields).Plain (n + 1) := by
  refine .object (fun f hf => ?_) fun f hf => ?_
  · simpa using List.any_eq_false.1 hwhole f hf
  · obtain ⟨name, hname, heq⟩ := exists_name_of_noOthers h hf
    exact hfields name hname f.2 (heq ▸ lookup_of_mem hnames hf)

theorem forall_lookup {P : Value → Prop} {fields : Fields} (h : ∀ f ∈ fields, P f.2)
    {name : Text} {v : Value} (hv : Value.lookup fields name = some v) : P v := by
  obtain ⟨f, hf, rfl⟩ := Option.map_eq_some_iff.1 hv
  exact h f (List.mem_reverse.1 (List.mem_of_find?_eq_some hf))

section

variable {name : String} {check : Value → Checked α} {fields : Fields} {a : α}

/-- A field that must be there is plain if its check takes plain values only. -/
theorem plain_of_required (h : required name check fields = .fits a)
    (hcheck : ∀ v a, Value.lookup fields name = some v → check v = .fits a → v.Plain n) :
    ∀ v ∈ Value.lookup fields name, v.Plain n := by
  obtain ⟨v, hv, hfits⟩ := required_eq_fits.1 h
  rw [hv]
  rintro _ ⟨⟩
  exact hcheck v a hv hfits

theorem plain_of_optional {default : α} (h : optional name default check fields = .fits a)
    (hcheck : ∀ v a, Value.lookup fields name = some v → check v = .fits a → v.Plain n) :
    ∀ v ∈ Value.lookup fields name, v.Plain n := by
  rcases optional_eq_fits.1 h with ⟨v, hv, hfits⟩ | ⟨hnone, -⟩
  · rw [hv]
    rintro _ ⟨⟩
    exact hcheck v a hv hfits
  · rw [hnone]
    exact nofun

theorem plain_of_list {reading : Reading} {v : Value} {values : List α}
    (h : list reading check v = .fits values) (hnames : v.NamesOnce)
    (hcheck : ∀ v a, v.NamesOnce → check v = .fits a → v.Plain n) : v.Plain (n + 1) := by
  obtain ⟨items, rfl, hitems⟩ := list_eq_fits.1 h
  have hall : ∀ item ∈ items, ∃ a, check item = .fits a := by
    clear h hnames
    induction hitems with
    | nil => simp
    | cons hfirst _ ih => exact List.forall_mem_cons.2 ⟨⟨_, hfirst⟩, ih⟩
  cases hnames with | array hnames =>
  refine .array fun item hitem => ?_
  obtain ⟨a, hfits⟩ := hall item hitem
  exact hcheck item a (hnames item hitem) hfits

end

end Check

namespace Document

open Check Checked Json

variable {reading : Reading} {v : Value}

/-! ### The parts of a document -/

theorem plain_of_checkPeriod {p : WrittenPeriod} (h : checkPeriod reading v = .fits p)
    (hnames : v.NamesOnce) : v.Plain 1 := by
  obtain ⟨fields, rfl, hwhole, hfields⟩ := object_eq_fits.1 h
  cases hnames with | object hnodup _ =>
  simp only [seqLeft_eq_fits, seq_eq_fits, map_eq_fits] at hfields
  obtain ⟨⟨_, days, ⟨_, finish, ⟨_, start, ⟨name, hname, rfl⟩, hstart, rfl⟩, hfinish, rfl⟩, hdays,
    rfl⟩, _, hothers⟩ := hfields
  have htext : ∀ {least : Nat} {most : Option Nat} {name : String} (v : Value) (s : String),
      Value.lookup fields name = some v → ofScalar (text least most v) = .fits s → v.Plain 0 :=
    fun v s _ hs => plain_of_text (ofScalar_eq_fits.1 hs)
  refine plain_of_noOthers hothers hnodup hwhole ?_
  simp only [List.forall_mem_cons]
  exact ⟨plain_of_required hname htext, plain_of_required hstart htext,
    plain_of_required hfinish htext, plain_of_optional hdays htext, List.forall_mem_nil _⟩

theorem plain_of_checkStatus {s : WrittenStatus} (h : checkStatus reading v = .fits s)
    (hnames : v.NamesOnce) : v.Plain 1 := by
  obtain ⟨fields, rfl, hwhole, hfields⟩ := object_eq_fits.1 h
  cases hnames with | object hnodup _ =>
  simp only [seqLeft_eq_fits, seq_eq_fits, map_eq_fits] at hfields
  obtain ⟨⟨_, voting, ⟨_, enabled, ⟨_, priority, ⟨setpoint, hsetpoint, rfl⟩, hpriority, rfl⟩,
    henabled, rfl⟩, hvoting, rfl⟩, _, hothers⟩ := hfields
  have htruth : ∀ {name : String} (v : Value) (b : Bool),
      Value.lookup fields name = some v → ofScalar (truth v) = .fits b → v.Plain 0 :=
    fun v b _ hb => plain_of_truth (ofScalar_eq_fits.1 hb)
  refine plain_of_noOthers hothers hnodup hwhole ?_
  simp only [List.forall_mem_cons]
  refine ⟨plain_of_required hsetpoint fun v x _ hx => ?_,
    plain_of_optional hpriority fun v n _ hn => plain_of_wholeFrom (ofScalar_eq_fits.1 hn),
    plain_of_optional henabled htruth, plain_of_optional hvoting htruth, List.forall_mem_nil _⟩
  obtain ⟨_, hfinite, -⟩ := mapped_eq_fits.1 hx
  exact plain_of_finiteNumber (ofScalar_eq_fits.1 hfinite)

theorem plain_of_checkEntry {e : DocumentEntry} (h : checkEntry reading v = .fits e)
    (hnames : v.NamesOnce) : v.Plain 2 := by
  obtain ⟨fields, rfl, hwhole, hfields⟩ := object_eq_fits.1 h
  cases hnames with | object hnodup hnames =>
  simp only [seqLeft_eq_fits, seq_eq_fits, map_eq_fits] at hfields
  obtain ⟨⟨_, status, ⟨period, hperiod, rfl⟩, hstatus, rfl⟩, _, hothers⟩ := hfields
  refine plain_of_noOthers hothers hnodup hwhole ?_
  simp only [List.forall_mem_cons]
  exact ⟨plain_of_required hperiod fun v p hv hp =>
      plain_of_checkPeriod hp (forall_lookup hnames hv),
    plain_of_required hstatus fun v s hv hs =>
      plain_of_checkStatus hs (forall_lookup hnames hv), List.forall_mem_nil _⟩

theorem plain_of_checkZone {z : ZoneEntries} (h : checkZone reading v = .fits z)
    (hnames : v.NamesOnce) : v.Plain 4 := by
  obtain ⟨fields, rfl, hwhole, hfields⟩ := object_eq_fits.1 h
  cases hnames with | object hnodup hnames =>
  simp only [seqLeft_eq_fits, seq_eq_fits, map_eq_fits] at hfields
  obtain ⟨⟨_, entries, ⟨zone, hzone, rfl⟩, hentries, rfl⟩, _, hothers⟩ := hfields
  refine plain_of_noOthers hothers hnodup hwhole ?_
  simp only [List.forall_mem_cons]
  exact ⟨plain_of_required hzone fun v s _ hs => plain_of_text (ofScalar_eq_fits.1 hs),
    plain_of_optional hentries fun v entries hv hlist => plain_of_list hlist
      (forall_lookup hnames hv) fun v e hv he => plain_of_checkEntry he hv, List.forall_mem_nil _⟩

/-- **Whatever passes the check of a document is plain**, and nests six containers at most. -/
theorem plain_of_check {d : Document} (h : check reading v = .fits d) (hnames : v.NamesOnce) :
    v.Plain 6 := by
  obtain ⟨fields, rfl, hwhole, hfields⟩ := object_eq_fits.1 h
  cases hnames with | object hnodup hnames =>
  simp only [seqLeft_eq_fits, map_eq_fits] at hfields
  obtain ⟨⟨zones, hzones, rfl⟩, _, hothers⟩ := hfields
  refine plain_of_noOthers hothers hnodup hwhole ?_
  simp only [List.forall_mem_cons]
  refine ⟨plain_of_optional hzones fun v zones hv hunique => ?_, List.forall_mem_nil _⟩
  obtain ⟨listed, hlist, -⟩ := andThen_eq_fits.1 hunique
  exact plain_of_list hlist (forall_lookup hnames hv) fun v z hv hz => plain_of_checkZone hz hv

/-! ### The two readings -/

theorem checkPeriod_text_eq_fits_iff {p : WrittenPeriod} :
    checkPeriod .text v = .fits p ↔ checkPeriod .decoded v = .fits p := by
  simp only [checkPeriod, object_eq_fits]

theorem checkStatus_text_eq_fits_iff {s : WrittenStatus} :
    checkStatus .text v = .fits s ↔ checkStatus .decoded v = .fits s := by
  simp only [checkStatus, object_eq_fits, seqLeft_eq_fits, seq_eq_fits, map_eq_fits,
    required_eq_fits, mapped_eq_fits, ofScalar_eq_fits, finiteNumber_text_eq_ok_iff]

theorem checkEntry_text_eq_fits_iff {e : DocumentEntry} :
    checkEntry .text v = .fits e ↔ checkEntry .decoded v = .fits e := by
  simp only [checkEntry, object_eq_fits, seqLeft_eq_fits, seq_eq_fits, map_eq_fits,
    required_eq_fits, checkPeriod_text_eq_fits_iff, checkStatus_text_eq_fits_iff]

theorem checkZone_text_eq_fits_iff {z : ZoneEntries} :
    checkZone .text v = .fits z ↔ checkZone .decoded v = .fits z := by
  simp only [checkZone, object_eq_fits, seqLeft_eq_fits, seq_eq_fits, map_eq_fits,
    optional_eq_fits, list_eq_fits, checkEntry_text_eq_fits_iff]

/-- **What a tree holds does not depend on whether it was read from text or decoded before.** -/
theorem check_text_eq_fits_iff {d : Document} :
    check .text v = .fits d ↔ check .decoded v = .fits d := by
  simp only [check, object_eq_fits, seqLeft_eq_fits, map_eq_fits, optional_eq_fits,
    andThen_eq_fits, list_eq_fits, checkZone_text_eq_fits_iff]

end Document

end ZonePlan
