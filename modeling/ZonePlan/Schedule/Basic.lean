/-
Tables and schedules.

A table maps periods to statuses, a schedule maps zones to tables.  Both keep the order in
which they were entered.
-/
import ZonePlan.Period.InForce
import ZonePlan.Registry
import ZonePlan.Status
import ZonePlan.Zone

namespace ZonePlan

/-- The statuses of periods. -/
abbrev Table := Registry Period Status

/-- The tables of zones. -/
abbrev Schedule := Registry Zone Table

namespace Table

/-- The table in the order of its periods. -/
def sort (t : Table) : Table := t.sortBy fun p q => !q.precedes p

/-- A period of the table with its status. -/
def entry? (t : Table) (p : Period) : Option (Period × Status) := (t.get? p).map fun s => (p, s)

/-- The period in force at a moment, with its status. -/
def inForce (t : Table) (m : Calendar.Moment) : Option (Period × Status) :=
  (Period.inForce t.keys m).bind t.entry?

/-- The period in force at what is given for a moment, with its status. -/
def inForceAt (ahead : Int) (t : Table) (w : When) : Except Failure (Option (Period × Status)) :=
  (Period.inForceAt ahead t.keys w).map fun p => p.bind t.entry?

/-- At a moment it can always be said what is in force. -/
theorem inForceAt_moment (t : Table) (ahead : Int) (m : Calendar.Moment) :
    t.inForceAt ahead (.moment m) = .ok (t.inForce m) := by
  unfold inForceAt inForce Period.inForceAt
  split
  · rename_i h
    rw [List.isEmpty_iff.1 h]
    rfl
  · rfl

end Table

/-- Entries of zones by the names of the zones; those of one name stay as they are. -/
def Zone.byName {α : Type} (entries : List (Zone × α)) : List (Zone × α) :=
  entries.mergeSort fun a b => a.1.name.notAfter b.1.name

namespace Zone

variable {α : Type}

theorem byName_perm (entries : List (Zone × α)) : (byName entries).Perm entries :=
  List.mergeSort_perm entries _

theorem mem_byName {entries : List (Zone × α)} {e : Zone × α} : e ∈ byName entries ↔ e ∈ entries :=
  (byName_perm entries).mem_iff

theorem notAfter_trans (a b c : Zone × α) (h : a.1.name.notAfter b.1.name = true)
    (h' : b.1.name.notAfter c.1.name = true) : a.1.name.notAfter c.1.name = true :=
  Text.notAfter_trans h h'

theorem notAfter_total (a b : Zone × α) :
    (a.1.name.notAfter b.1.name || b.1.name.notAfter a.1.name) = true :=
  Text.notAfter_total a.1.name b.1.name

/-- No entry stands behind one with a later name. -/
theorem byName_pairwise (entries : List (Zone × α)) :
    (byName entries).Pairwise fun a b => a.1.name.notAfter b.1.name :=
  List.pairwise_mergeSort notAfter_trans notAfter_total entries

/-- Entries of one name stay as they are. -/
theorem filter_byName (entries : List (Zone × α)) (name : Text) :
    (byName entries).filter (fun e => e.1.name = name) =
      entries.filter fun e => e.1.name = name := by
  refine Registry.filter_mergeSort notAfter_trans notAfter_total (fun a b ha hb => ?_) entries
  rw [of_decide_eq_true ha, of_decide_eq_true hb]
  exact Text.notAfter_refl name

end Zone

namespace Schedule

/-- The zones of one schedule that another one lacks. -/
def dropped (old new : Schedule) : List Zone := old.keys.filter fun z => !new.has z

theorem mem_dropped {old new : Schedule} {z : Zone} :
    z ∈ old.dropped new ↔ old.has z = true ∧ new.has z = false := by
  rw [dropped, List.mem_filter, Registry.has_iff_mem_keys, Bool.not_eq_true']

end Schedule

/-! ### Copies -/

/-- A table as a scheduler keeps it: a copy of its own, which a number tells from all others,
equal ones too. -/
structure Copy where
  number : Nat
  table : Table

namespace Copy

/-- Copies of the tables of zones, numbered from a number on. -/
def ofTables : (number : Nat) → List (Zone × Table) → List (Zone × Copy)
  | _, [] => []
  | number, (zone, table) :: rest => (zone, ⟨number, table⟩) :: ofTables (number + 1) rest

theorem ofTables_map_fst (number : Nat) (tables : List (Zone × Table)) :
    (ofTables number tables).map (·.1) = tables.map (·.1) := by
  induction tables generalizing number with
  | nil => rfl
  | cons e rest ih => rw [ofTables, List.map_cons, List.map_cons, ih]

/-- Copies hold what they are copies of, in its order. -/
theorem ofTables_map_table (number : Nat) (tables : List (Zone × Table)) :
    (ofTables number tables).map (fun e => (e.1, e.2.table)) = tables := by
  induction tables generalizing number with
  | nil => rfl
  | cons e rest ih => rw [ofTables, List.map_cons, ih]

/-- Numbers are given one after the other. -/
theorem number_of_mem_ofTables {number : Nat} {tables : List (Zone × Table)} {e : Zone × Copy}
    (h : e ∈ ofTables number tables) :
    number ≤ e.2.number ∧ e.2.number < number + tables.length := by
  induction tables generalizing number with
  | nil => exact absurd h List.not_mem_nil
  | cons t rest ih =>
    rw [ofTables, List.mem_cons] at h
    rw [List.length_cons]
    rcases h with rfl | h
    · exact ⟨Nat.le_refl _, Nat.lt_add_of_pos_right (Nat.succ_pos _)⟩
    · have := ih h
      omega

/-- Copies of the tables of a schedule. -/
def ofSchedule (number : Nat) (s : Schedule) : Registry Zone Copy where
  entries := ofTables number s.entries
  nodup := by rw [ofTables_map_fst]; exact s.nodup

theorem mapValues_ofSchedule (number : Nat) (s : Schedule) :
    (ofSchedule number s).mapValues (·.table) = s :=
  Registry.ext (ofTables_map_table number s.entries)

end Copy
end ZonePlan
