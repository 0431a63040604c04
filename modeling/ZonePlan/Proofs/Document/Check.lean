/-
A document that has been checked is valid.

Every condition of `Document.IsValid` is one that the check of some part looks for: lengths of
texts, a setpoint that is finite, a priority that is not negative, no zone twice.  A field that is
left out gets a default, which is not checked; each default is one that the check would have let
pass.
-/
import Mathlib.Data.List.Nodup
import ZonePlan.Document.Check
import ZonePlan.Proofs.Check.Tree

namespace ZonePlan.Document

open Check Checked

variable {reading : Reading} {v : Json.Value}

/-! ### The parts -/

theorem isValid_of_checkPeriod {p : WrittenPeriod} (h : checkPeriod reading v = .fits p) :
    p.IsValid := by
  obtain ⟨fields, -, -, hfields⟩ := object_eq_fits.1 h
  simp only [seqLeft_eq_fits, seq_eq_fits, map_eq_fits] at hfields
  obtain ⟨⟨_, days, ⟨_, finish, ⟨_, start, ⟨name, hname, rfl⟩, hstart, rfl⟩, hfinish, rfl⟩, hdays,
    rfl⟩, -⟩ := hfields
  have hlength : ∀ {least : Nat} {most : Option Nat} (v : Json.Value) (s : String),
      ofScalar (text least most v) = .fits s → least ≤ s.length ∧ ∀ n ∈ most, s.length ≤ n :=
    fun v s hs => length_of_text (ofScalar_eq_fits.1 hs)
  obtain ⟨hname, hlongest⟩ := of_required hlength hname
  obtain ⟨hstart, -⟩ := of_required hlength hstart
  obtain ⟨hfinish, -⟩ := of_required hlength hfinish
  obtain ⟨hdays, hweek⟩ := of_optional (by decide) hlength hdays
  exact ⟨hname, hlongest _ rfl, hstart, hfinish, Nat.le_antisymm (hweek _ rfl) hdays⟩

theorem isValid_of_checkStatus {s : WrittenStatus} (h : checkStatus reading v = .fits s) :
    s.IsValid := by
  obtain ⟨fields, -, -, hfields⟩ := object_eq_fits.1 h
  simp only [seqLeft_eq_fits, seq_eq_fits, map_eq_fits] at hfields
  obtain ⟨⟨_, voting, ⟨_, enabled, ⟨_, priority, ⟨setpoint, hsetpoint, rfl⟩, hpriority, rfl⟩, -,
    rfl⟩, -, rfl⟩, -⟩ := hfields
  constructor
  · refine of_required (P := fun x => ∃ y, x = Double.finite y) (fun v x hx => ?_) hsetpoint
    obtain ⟨y, -, hy⟩ := mapped_eq_fits.1 hx
    exact ⟨y, hy.symm⟩
  · exact of_optional (P := fun n => 0 ≤ n) (Int.le_refl 0)
      (fun v n hn => le_of_wholeFrom (ofScalar_eq_fits.1 hn)) hpriority

theorem isValid_of_checkEntry {e : DocumentEntry} (h : checkEntry reading v = .fits e) :
    e.period.IsValid ∧ e.status.IsValid := by
  obtain ⟨fields, -, -, hfields⟩ := object_eq_fits.1 h
  simp only [seqLeft_eq_fits, seq_eq_fits, map_eq_fits] at hfields
  obtain ⟨⟨_, status, ⟨period, hperiod, rfl⟩, hstatus, rfl⟩, -⟩ := hfields
  exact ⟨of_required (fun v p hp => isValid_of_checkPeriod hp) hperiod,
    of_required (fun v s hs => isValid_of_checkStatus hs) hstatus⟩

theorem isValid_of_checkZone {z : ZoneEntries} (h : checkZone reading v = .fits z) :
    z.IsValid := by
  obtain ⟨fields, -, -, hfields⟩ := object_eq_fits.1 h
  simp only [seqLeft_eq_fits, seq_eq_fits, map_eq_fits] at hfields
  obtain ⟨⟨_, entries, ⟨zone, hzone, rfl⟩, hentries, rfl⟩, -⟩ := hfields
  constructor
  · exact of_required (P := fun s => 1 ≤ s.length)
      (fun v s hs => (length_of_text (ofScalar_eq_fits.1 hs)).1) hzone
  · exact of_optional (P := fun entries : List DocumentEntry =>
      ∀ e ∈ entries, e.period.IsValid ∧ e.status.IsValid) (by simp)
      (fun v entries hlist => forall_of_list (fun v e he => isValid_of_checkEntry he) hlist)
      hentries

/-! ### The zones together -/

/-- No name stands in a list for the second time just if the names of the list differ from each
other and from those before. -/
theorem repeated?_eq_none_iff {seen names : List String} :
    repeated? seen names = none ↔ names.Nodup ∧ ∀ name ∈ names, name ∉ seen := by
  induction names generalizing seen with
  | nil => simp [repeated?]
  | cons name rest ih =>
    unfold repeated?
    split
    · rename_i hseen
      simp [hseen]
    · rename_i hnew
      rw [ih, List.forall_mem_cons, List.nodup_cons]
      simp only [List.mem_cons, not_or]
      constructor
      · rintro ⟨hnodup, hrest⟩
        exact ⟨⟨fun hmem => (hrest name hmem).1 rfl, hnodup⟩, hnew,
          fun other hother => (hrest other hother).2⟩
      · rintro ⟨⟨hnot, hnodup⟩, -, hrest⟩
        refine ⟨hnodup, fun other hother => ⟨?_, hrest other hother⟩⟩
        rintro rfl
        exact hnot hother

theorem checkUnique_eq_fits {zones zones' : List ZoneEntries} :
    checkUnique zones = .fits zones' ↔ (zones.map (·.zone)).Nodup ∧ zones = zones' := by
  unfold checkUnique
  split
  · rename_i hnone
    simp [(repeated?_eq_none_iff.1 hnone).1]
  · rename_i name hsome
    refine ⟨nofun, fun h => ?_⟩
    rw [repeated?_eq_none_iff.2 ⟨h.1, fun _ _ => List.not_mem_nil⟩] at hsome
    cases hsome

/-- **Whatever passes the check of a document is a valid document.** -/
theorem isValid_of_check {d : Document} (h : check reading v = .fits d) : d.IsValid := by
  obtain ⟨fields, -, -, hfields⟩ := object_eq_fits.1 h
  simp only [seqLeft_eq_fits, map_eq_fits] at hfields
  obtain ⟨⟨zones, hzones, rfl⟩, -⟩ := hfields
  refine of_optional (P := fun zones : List ZoneEntries =>
    (∀ z ∈ zones, z.IsValid) ∧ (zones.map (·.zone)).Nodup) (by simp) (fun v zones hv => ?_) hzones
  obtain ⟨listed, hlist, hunique⟩ := andThen_eq_fits.1 hv
  obtain ⟨hnodup, rfl⟩ := checkUnique_eq_fits.1 hunique
  exact ⟨forall_of_list (fun v z hz => isValid_of_checkZone hz) hlist, hnodup⟩

/-! ### Documents from outside -/

theorem isValid_of_checkText {s : List Char} {d : Document} (h : checkText s = .fits d) :
    d.IsValid := by
  unfold checkText at h
  split at h
  · exact isValid_of_check h
  · cases h

/-- A document from outside is valid. -/
theorem isValid_of_parse {d : Document} (h : parse v = .ok d) : d.IsValid := by
  unfold parse at h
  have hchecked := orFail_eq_ok.1 h
  split at hchecked
  · obtain ⟨s, -, hs⟩ := andThen_eq_fits.1 hchecked
    exact isValid_of_checkText hs
  · exact isValid_of_check hchecked

/-- A document given as bytes is valid. -/
theorem isValid_of_parseBytes {bytes : List Nat} {d : Document} (h : parseBytes bytes = .ok d) :
    d.IsValid := by
  unfold parseBytes at h
  have hchecked := orFail_eq_ok.1 h
  split at hchecked
  · exact isValid_of_checkText hchecked
  · cases hchecked

end ZonePlan.Document
