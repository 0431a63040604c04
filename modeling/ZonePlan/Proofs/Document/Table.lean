/-
What the table of a document puts in force.

The entries of a zone are entered one after the other, and the table is then sorted.  Three
things decide what such a table puts in force: a period that is listed again keeps its place and
gets the later status, the sorting looks at windows alone, and of the periods of one window the
last one in the table counts.  Together they come to this (`Prevails`): of the periods that cover
the moment one of the greatest counts, and of several the one that was listed last for the first
time; its status is the one listed last for it.

Sorting the table has no part in it, since sorting never changes what a table puts in force
(`Table.inForceAt_sort`).
-/
import Mathlib
import ZonePlan.Document.Build
import ZonePlan.Proofs.Period.InForce
import ZonePlan.Proofs.Registry

namespace ZonePlan

open Calendar (Moment)

/-! ### Sorting a table -/

namespace Table

theorem keys_sort (t : Table) : t.sort.keys = Period.sort t.keys := by
  rw [Registry.keys, Table.sort, Registry.sortBy, Period.sort]
  exact List.map_mergeSort fun _ _ _ _ => rfl

theorem get?_sort (t : Table) (p : Period) : t.sort.get? p = t.get? p := by
  refine Option.ext fun s => ?_
  rw [Registry.get?_eq_some_iff, Registry.get?_eq_some_iff]
  exact (List.mergeSort_perm t.entries _).mem_iff

/-- Sorting a table does not change what it puts in force. -/
theorem inForce_sort (t : Table) (m : Moment) : t.sort.inForce m = t.inForce m := by
  have hentry : t.sort.entry? = t.entry? := by
    funext p
    unfold entry?
    rw [get?_sort]
  rw [inForce, keys_sort, Period.inForce_sort, hentry, inForce]

/-- What a table puts in force is a period in force with its status. -/
theorem inForce_eq_some {t : Table} {m : Moment} {p : Period} {s : Status}
    (hp : Period.inForce t.keys m = some p) (hs : t.get? p = some s) :
    t.inForce m = some (p, s) := by
  unfold inForce entry?
  rw [hp, Option.bind_some, hs, Option.map_some]

end Table

namespace Document

/-! ### Reading the entries -/

/-- What the entries of a zone say, one by one. -/
def Reads (z : ZoneEntries) (entries : List (Period × Status)) : Prop :=
  List.Forall₂ (fun e read => (period e.period).result = .ok read.1 ∧
    status e.status = .ok read.2) z.entries entries

/-- The status of a valid entry can be read. -/
theorem status_of_valid {s : WrittenStatus} (h : s.IsValid) : ∃ read, status s = .ok read := by
  obtain ⟨⟨x, hx⟩, hpriority⟩ := h
  refine ⟨⟨x, s.dumpPriority.toNat, s.enabled, s.voting⟩, ?_⟩
  rw [status, hx]
  exact if_neg (Int.not_lt.2 hpriority)

theorem exists_reads {z : ZoneEntries} (hvalid : z.IsValid)
    (hperiods : ∀ e ∈ z.entries, ∃ p, (period e.period).result = .ok p) :
    ∃ entries, Reads z entries := by
  have hread : ∀ listed : List DocumentEntry, (∀ e ∈ listed, e ∈ z.entries) →
      ∃ entries : List (Period × Status), List.Forall₂ (fun e read =>
        (period e.period).result = .ok read.1 ∧ status e.status = .ok read.2) listed entries := by
    intro listed
    induction listed with
    | nil => exact fun _ => ⟨[], .nil⟩
    | cons e rest ih =>
      intro hlisted
      obtain ⟨p, hp⟩ := hperiods e (hlisted e List.mem_cons_self)
      obtain ⟨s, hs⟩ := status_of_valid (hvalid.2 e (hlisted e List.mem_cons_self)).2
      obtain ⟨entries, hentries⟩ := ih fun e he => hlisted e (List.mem_cons_of_mem _ he)
      exact ⟨(p, s) :: entries, .cons ⟨hp, hs⟩ hentries⟩
  exact hread z.entries fun _ he => he

/-- Entries say one thing only. -/
theorem Reads.unique {z : ZoneEntries} {entries entries' : List (Period × Status)}
    (h : Reads z entries) (h' : Reads z entries') : entries = entries' := by
  refine List.right_unique_forall₂' (fun e read read' hread hread' => ?_) h h'
  exact Prod.ext (Except.ok.inj (hread.1.symm.trans hread'.1))
    (Except.ok.inj (hread.2.symm.trans hread'.2))

theorem result_addEntry {zone : String} {t : Table} {e : DocumentEntry} {p : Period} {s : Status}
    (hp : (period e.period).result = .ok p) (hs : status e.status = .ok s) :
    (addEntry zone t e).result = .ok (t.insert p s) := by
  have hread : ((period e.period).mapFailure (.badPeriod zone e.period.name)).result = .ok p := by
    rw [Logged.mapFailure, hp]
    rfl
  have hinsert : (Logged.ofExcept (status e.status) >>= fun s => pure (t.insert p s)).result =
      .ok (t.insert p s) := by
    rw [Logged.result_bind, Logged.result_ofExcept, hs]
    rfl
  unfold addEntry
  rw [Logged.result_bind, hread]
  by_cases hdup : t.has p = true
  · exact (congrArg Logged.result (if_pos hdup)).trans
      ((Logged.result_bind (Logged.note _) _).trans hinsert)
  · exact (congrArg Logged.result (if_neg hdup)).trans hinsert

/-- The table of a zone is made of its entries, entered one after the other, and sorted. -/
theorem result_table {z : ZoneEntries} {entries : List (Period × Status)} (h : Reads z entries) :
    (table z).result = .ok (Table.sort (Registry.ofList entries)) := by
  have hentered : ∀ (listed : List DocumentEntry) (entries : List (Period × Status)) (t : Table),
      List.Forall₂ (fun e read => (period e.period).result = .ok read.1 ∧
        status e.status = .ok read.2) listed entries →
      (listed.foldlM (addEntry z.zone) t).result =
        .ok (entries.foldl (fun r e => r.insert e.1 e.2) t) := by
    intro listed entries t hread
    induction hread generalizing t with
    | nil => rfl
    | cons hfirst _ ih =>
      rw [List.foldlM_cons, Logged.result_bind, result_addEntry hfirst.1 hfirst.2]
      exact ih _
  rw [table, Logged.result_bind, hentered z.entries entries ∅ h]
  rfl

/-! ### What counts -/

/-- A period counts at a moment among periods in the order in which they are listed: it is one of
the greatest of those that cover the moment, and of several the one that was listed last for the
first time. -/
structure Prevails (periods : List Period) (m : Moment) (p : Period) : Prop where
  mem : p ∈ periods
  covers : p.covers m = true
  greatest : ∀ q ∈ periods, q.covers m = true →
    q.start < p.start ∨ q.start = p.start ∧ p.finish ≤ q.finish
  first : ∀ q ∈ periods, q.covers m = true → q.start = p.start → q.finish = p.finish →
    periods.idxOf q ≤ periods.idxOf p

theorem prevails_of_inForce {entries : List (Period × Status)} {m : Moment} {p : Period}
    (h : Period.inForce (Registry.ofList entries).keys m = some p) :
    Prevails (entries.map (·.1)) m p := by
  obtain ⟨hmem, hcovers⟩ := Period.mem_of_inForce h
  refine ⟨Registry.mem_keys_ofList.1 hmem, hcovers, ?_, ?_⟩
  · intro q hq hcovers'
    exact Period.precedes_eq_false_iff.1
      (Period.not_precedes_of_inForce h (Registry.mem_keys_ofList.2 hq) hcovers')
  · intro q hq hcovers' hstart hfinish
    have hplaces := Registry.keys_ofList_pairwise entries
    have hq' := Registry.mem_keys_ofList.2 hq
    obtain ⟨before, after, hsplit, -, -, hafter⟩ := Period.inForce_split h
    rw [hsplit] at hplaces hq'
    rcases List.mem_append.1 hq' with hq' | hq'
    · exact Nat.le_of_lt ((List.pairwise_append.1 hplaces).2.2 q hq' p List.mem_cons_self)
    · rcases List.mem_cons.1 hq' with rfl | hq'
      · exact Nat.le_refl _
      · -- What stands behind the period in force sorts before it, so it has another window.
        have hprecedes := Period.precedes_iff.1 (hafter q hq' hcovers')
        omega

/-- Where no period is listed twice, what counts is the last entry of one of the greatest periods
that cover the moment. -/
theorem split_of_inForce {entries : List (Period × Status)} {m : Moment} {p : Period} {s : Status}
    (hnodup : (entries.map (·.1)).Nodup)
    (hp : Period.inForce (Registry.ofList entries).keys m = some p)
    (hs : (Registry.ofList entries).get? p = some s) :
    ∃ before after, entries = before ++ (p, s) :: after ∧
      (∀ e ∈ before, e.1.covers m = true → p.precedes e.1 = false) ∧
      ∀ e ∈ after, e.1.covers m = true → e.1.precedes p = true := by
  have hkeys : (Registry.ofList entries).keys = entries.map (·.1) := by
    rw [Registry.keys, Registry.entries_ofList hnodup]
  rw [hkeys] at hp
  obtain ⟨before, after, hsplit, -, hbefore, hafter⟩ := Period.inForce_split hp
  obtain ⟨first, rest, rfl, rfl, hrest⟩ := List.map_eq_append_iff.1 hsplit
  obtain ⟨e, last, rfl, rfl, rfl⟩ := List.map_eq_cons_iff.1 hrest
  have hlisted : (Registry.ofList (first ++ e :: last)).get? e.1 = some e.2 := by
    rw [Registry.get?_eq_some_iff, Registry.entries_ofList hnodup]
    exact List.mem_append_right _ List.mem_cons_self
  refine ⟨first, last, ?_, ?_, ?_⟩
  · rw [← Option.some.inj (hlisted.symm.trans hs)]
  · exact fun e he => hbefore e.1 (List.mem_map_of_mem he)
  · exact fun e he => hafter e.1 (List.mem_map_of_mem he)

/-- **The table of a valid zone whose periods can be read puts in force what prevails among the
periods as they are listed, with the status listed last for it**, and nothing when none of them
covers the moment.  Where no period is listed twice, this is the last entry of one of the greatest
periods, with its own status.  No table puts anything else in force when it is sorted. -/
theorem inForceAt_table {z : ZoneEntries} (hvalid : z.IsValid)
    (hperiods : ∀ e ∈ z.entries, ∃ p, (period e.period).result = .ok p) :
    ∃ entries t, Reads z entries ∧ (table z).result = .ok t ∧ ∀ (ahead : Int) (m : Moment),
      ((∀ e ∈ entries, e.1.covers m = false) → t.inForceAt ahead (.moment m) = .ok none) ∧
      ((∃ e ∈ entries, e.1.covers m = true) →
        ∃ p s, t.inForceAt ahead (.moment m) = .ok (some (p, s)) ∧
          Prevails (entries.map (·.1)) m p ∧
          (∃ before after, entries = before ++ (p, s) :: after ∧ ∀ e ∈ after, e.1 ≠ p) ∧
          ((entries.map (·.1)).Nodup → ∃ before after, entries = before ++ (p, s) :: after ∧
            (∀ e ∈ before, e.1.covers m = true → p.precedes e.1 = false) ∧
            ∀ e ∈ after, e.1.covers m = true → e.1.precedes p = true)) ∧
      ∀ u : Table, u.sort.inForceAt ahead (.moment m) = u.inForceAt ahead (.moment m) := by
  obtain ⟨entries, hreads⟩ := exists_reads hvalid hperiods
  refine ⟨entries, _, hreads, result_table hreads, fun ahead m => ?_⟩
  rw [Table.inForceAt_moment, Table.inForce_sort]
  refine ⟨?_, ?_, ?_⟩
  · intro hnone
    have hforce : Period.inForce (Registry.ofList entries).keys m = none := by
      rw [Period.inForce_eq_none_iff]
      intro p hp
      obtain ⟨e, he, rfl⟩ := List.mem_map.1 (Registry.mem_keys_ofList.1 hp)
      exact hnone e he
    rw [Table.inForce, hforce, Option.bind_none]
  · rintro ⟨e, he, hcovers⟩
    have hlisted := Registry.mem_keys_ofList.2 (List.mem_map_of_mem (f := (·.1)) he)
    rcases hp : Period.inForce (Registry.ofList entries).keys m with _ | p
    · rw [Period.inForce_eq_none_iff.1 hp e.1 hlisted] at hcovers
      exact absurd hcovers Bool.false_ne_true
    · obtain ⟨s, hs⟩ : ∃ s, (Registry.ofList entries).get? p = some s := by
        rw [← Option.isSome_iff_exists, ← Registry.has_eq_isSome, Registry.has_iff_mem_keys]
        exact (Period.mem_of_inForce hp).1
      exact ⟨p, s, by rw [Table.inForce_eq_some hp hs], prevails_of_inForce hp,
        Registry.get?_ofList_eq_some hs, fun hnodup => split_of_inForce hnodup hp hs⟩
  · intro u
    rw [Table.inForceAt_moment, Table.inForceAt_moment, Table.inForce_sort]

/-! ### A kitchen

The entries of a zone, for statements about a table in particular.
-/

namespace Kitchen

open Period.Lunch

def told (priority : Int) : WrittenStatus := ⟨.finite (.zero false), priority, true, true⟩

/-- Lunch is listed twice, its times being written in two ways. -/
def listed : ZoneEntries where
  zone := "kitchen"
  entries := [
    ⟨⟨"lunch", "12:00 pm", "13:00", "MTWTFSS"⟩, told 1⟩,
    ⟨⟨"siesta", "12:00", "13:00", "MTWTFSS"⟩, told 2⟩,
    ⟨⟨"lunch", "1200", "1:00 PM", "MTWTFSS"⟩, told 3⟩]

def read (priority : Nat) : Status := ⟨.zero false, priority, true, true⟩

theorem listed_valid : listed.IsValid := by
  unfold ZoneEntries.IsValid WrittenPeriod.IsValid WrittenStatus.IsValid listed
  simp only [List.forall_mem_cons, List.not_mem_nil, false_implies, implies_true, and_true]
  exact ⟨by decide, ⟨by decide, ⟨_, rfl⟩, by decide⟩, ⟨by decide, ⟨_, rfl⟩, by decide⟩,
    by decide, ⟨_, rfl⟩, by decide⟩

theorem listed_reads : Reads listed [(lunch, read 1), (siesta, read 2), (lunch, read 3)] :=
  .cons ⟨by cbv, rfl⟩ (.cons ⟨by cbv, rfl⟩ (.cons ⟨by cbv, rfl⟩ .nil))

end Kitchen

/-- Lunch is the last entry of the kitchen, but was listed first before siesta, so that siesta is
in force. -/
theorem inForceAt_kitchen : ∃ t, (table Kitchen.listed).result = .ok t ∧
    t.inForceAt 0 (.moment Period.Lunch.halfPast) =
      .ok (some (Period.Lunch.siesta, Kitchen.read 2)) := by
  have hperiods : ∀ e ∈ Kitchen.listed.entries, ∃ p, (period e.period).result = .ok p := by
    intro e he
    simp only [Kitchen.listed, List.mem_cons, List.not_mem_nil, or_false] at he
    rcases he with rfl | rfl | rfl
    · exact ⟨Period.Lunch.lunch, by cbv⟩
    · exact ⟨Period.Lunch.siesta, by cbv⟩
    · exact ⟨Period.Lunch.lunch, by cbv⟩
  obtain ⟨entries, t, hreads, htable, hforce⟩ := inForceAt_table Kitchen.listed_valid hperiods
  obtain rfl := hreads.unique Kitchen.listed_reads
  obtain ⟨-, hsome, -⟩ := hforce 0 Period.Lunch.halfPast
  obtain ⟨p, s, hp, hprevails, ⟨before, after, hlast, -⟩, -⟩ :=
    hsome ⟨_, List.mem_cons_self, by decide⟩
  have hlisted : (p, s) ∈ [(Period.Lunch.lunch, Kitchen.read 1),
      (Period.Lunch.siesta, Kitchen.read 2), (Period.Lunch.lunch, Kitchen.read 3)] := by
    rw [hlast]
    exact List.mem_append_right _ List.mem_cons_self
  have hlunch : p ≠ Period.Lunch.lunch := by
    rintro rfl
    have hfirst := hprevails.first Period.Lunch.siesta (by decide) (by decide) rfl rfl
    exact absurd hfirst (by decide)
  simp only [List.mem_cons, Prod.mk.injEq, hlunch, false_and, List.not_mem_nil, or_false,
    false_or] at hlisted
  obtain ⟨rfl, rfl⟩ := hlisted
  exact ⟨t, htable, hp⟩

end Document
end ZonePlan
