/-
Registries: one value per key, in the order in which the keys were first entered.

Entering a key again replaces its value and keeps its place.  Tables of periods, schedules
of zones and what zones were last told are registries.
-/
namespace ZonePlan

/-- Keys with their values, each key once. -/
structure Registry (κ α : Type) where
  entries : List (κ × α)
  nodup : (entries.map (·.1)).Nodup

namespace Registry

variable {κ α : Type}

instance : EmptyCollection (Registry κ α) := ⟨⟨[], .nil⟩⟩

instance : Inhabited (Registry κ α) := ⟨∅⟩

theorem ext {r s : Registry κ α} (h : r.entries = s.entries) : r = s := by
  cases r; cases s; cases h; rfl

instance [DecidableEq κ] [DecidableEq α] : DecidableEq (Registry κ α) := fun r s =>
  decidable_of_iff (r.entries = s.entries) ⟨ext, fun h => h ▸ rfl⟩

/-- The keys in their order. -/
def keys (r : Registry κ α) : List κ := r.entries.map (·.1)

/-- How many keys there are. -/
def size (r : Registry κ α) : Nat := r.entries.length

/-- The registry with its values changed one by one. -/
def mapValues {β : Type} (f : α → β) (r : Registry κ α) : Registry κ β where
  entries := r.entries.map fun e => (e.1, f e.2)
  nodup := by rw [List.map_map]; exact r.nodup

variable [DecidableEq κ]

/-- The value of a key. -/
def get? (r : Registry κ α) (k : κ) : Option α := (r.entries.find? fun e => e.1 = k).map (·.2)

/-- Whether a key has a value. -/
def has (r : Registry κ α) (k : κ) : Bool := r.entries.any fun e => e.1 = k

/-- The entries with the value of a key replaced. -/
def replaceIn (k : κ) (a : α) (entries : List (κ × α)) : List (κ × α) :=
  entries.map fun e => if e.1 = k then (e.1, a) else e

theorem map_fst_replaceIn (k : κ) (a : α) (entries : List (κ × α)) :
    (replaceIn k a entries).map (·.1) = entries.map (·.1) := by
  unfold replaceIn
  rw [List.map_map]
  refine List.map_congr_left fun e _ => ?_
  simp only [Function.comp_apply]
  split <;> rfl

theorem has_eq_false {r : Registry κ α} {k : κ} : r.has k = false ↔ k ∉ r.keys := by
  simp only [has, keys, List.any_eq_false, decide_eq_true_eq, List.mem_map, not_exists, not_and]

theorem nodup_append {r : Registry κ α} {k : κ} (a : α) (h : r.has k = false) :
    ((r.entries ++ [(k, a)]).map (·.1)).Nodup := by
  rw [List.map_append, List.nodup_append]
  refine ⟨r.nodup, by simp, fun x hx y hy => ?_⟩
  rw [List.map_singleton, List.mem_singleton] at hy
  rintro rfl
  have hk : x = k := hy
  exact has_eq_false.1 h (hk ▸ hx)

/-- Enters a value for a key: in the key's place if it has one, else at the end. -/
def insert (r : Registry κ α) (k : κ) (a : α) : Registry κ α :=
  if h : r.has k = false then ⟨r.entries ++ [(k, a)], nodup_append a h⟩
  else ⟨replaceIn k a r.entries, by rw [map_fst_replaceIn]; exact r.nodup⟩

/-- Takes a key out. -/
def erase (r : Registry κ α) (k : κ) : Registry κ α where
  entries := r.entries.filter fun e => e.1 ≠ k
  nodup := List.Nodup.sublist (List.Sublist.map _ List.filter_sublist) r.nodup

/-- The registry of entries, those of one key coming together as by `insert`. -/
def ofList (entries : List (κ × α)) : Registry κ α :=
  entries.foldl (fun r e => r.insert e.1 e.2) ∅

/-- The registry with its entries in order; those that sort alike stay as they are. -/
def sortBy (r : Registry κ α) (notAfter : κ → κ → Bool) : Registry κ α where
  entries := r.entries.mergeSort fun e f => notAfter e.1 f.1
  nodup := ((List.mergeSort_perm r.entries _).map _).nodup_iff.2 r.nodup

/-! ### What the operations do to the values -/

theorem has_eq_isSome (r : Registry κ α) (k : κ) : r.has k = (r.get? k).isSome := by
  rw [has, get?, Option.isSome_map, Bool.eq_iff_iff, List.any_eq_true, List.find?_isSome]

theorem get?_eq_none_iff {r : Registry κ α} {k : κ} : r.get? k = none ↔ k ∉ r.keys := by
  rw [← has_eq_false, has_eq_isSome]
  simp

@[simp] theorem get?_empty (k : κ) : (∅ : Registry κ α).get? k = none := rfl

theorem find?_replaceIn (k l : κ) (a : α) (entries : List (κ × α)) :
    ((replaceIn k a entries).find? fun e => e.1 = l).map (·.2) =
      if l = k then (entries.find? fun e => e.1 = k).map fun _ => a
      else (entries.find? fun e => e.1 = l).map (·.2) := by
  induction entries with
  | nil => simp [replaceIn]
  | cons e rest ih =>
    simp only [replaceIn, List.map_cons, List.find?_cons] at ih ⊢
    by_cases hk : e.1 = k <;> by_cases hl : e.1 = l <;> by_cases hlk : l = k <;> simp_all

theorem get?_insert (r : Registry κ α) (k l : κ) (a : α) :
    (r.insert k a).get? l = if l = k then some a else r.get? l := by
  unfold insert
  split
  · rename_i h
    have hnone : r.get? k = none := get?_eq_none_iff.2 (has_eq_false.1 h)
    simp only [get?, Option.map_eq_none_iff] at hnone
    simp only [get?, List.find?_append, List.find?_cons, List.find?_nil]
    by_cases hlk : l = k
    · subst hlk
      simp [hnone]
    · simp [hlk, Ne.symm hlk]
  · rename_i h
    have hsome : (r.get? k).isSome := by
      rw [← has_eq_isSome]
      simpa using h
    simp only [get?] at hsome ⊢
    rw [find?_replaceIn]
    split
    · obtain ⟨e, he⟩ := Option.isSome_iff_exists.1 (Option.isSome_map ▸ hsome)
      simp [he]
    · rfl

theorem get?_erase (r : Registry κ α) (k l : κ) :
    (r.erase k).get? l = if l = k then none else r.get? l := by
  simp only [get?, erase, List.find?_filter]
  split
  · rename_i h
    subst h
    rw [List.find?_eq_none.2 (by simp)]
    rfl
  · rename_i h
    congr 2
    funext e
    by_cases he : e.1 = l <;> simp [he, h]

theorem get?_foldl_erase (keys : List κ) (r : Registry κ α) (k : κ) :
    (keys.foldl erase r).get? k = if k ∈ keys then none else r.get? k := by
  induction keys generalizing r with
  | nil => simp
  | cons l rest ih =>
    rw [List.foldl_cons, ih, get?_erase]
    by_cases hk : k = l <;> by_cases hrest : k ∈ rest <;> simp [hk, hrest]

/-- What a key has is what stands beside it. -/
theorem get?_eq_some_iff {r : Registry κ α} {k : κ} {a : α} :
    r.get? k = some a ↔ (k, a) ∈ r.entries := by
  obtain ⟨entries, nodup⟩ := r
  simp only [get?]
  induction entries with
  | nil => simp
  | cons e rest ih =>
    rw [List.map_cons, List.nodup_cons] at nodup
    rw [List.find?_cons, List.mem_cons]
    by_cases hk : e.1 = k
    · have hrest : (k, a) ∉ rest := fun h => nodup.1 (hk ▸ List.mem_map_of_mem h)
      simp only [hk, decide_true, Option.map_some, Option.some.injEq, hrest, or_false]
      constructor
      · rintro rfl
        exact Prod.ext hk.symm rfl
      · rintro rfl
        rfl
    · have hne : (k, a) ≠ e := fun h => hk (h ▸ rfl)
      simpa [hk, hne] using ih nodup.2

theorem has_iff_mem_keys {r : Registry κ α} {k : κ} : r.has k = true ↔ k ∈ r.keys := by
  rw [← Bool.not_eq_false, has_eq_false, Classical.not_not]

@[simp] theorem get?_mapValues {β : Type} (f : α → β) (r : Registry κ α) (k : κ) :
    (r.mapValues f).get? k = (r.get? k).map f := by
  simp only [get?, mapValues, List.find?_map, Function.comp_def, Option.map_map]

/-! ### Sorting -/

/-- What sorts alike stays as it is. -/
theorem filter_mergeSort {notAfter : α → α → Bool}
    (htrans : ∀ a b c, notAfter a b = true → notAfter b c = true → notAfter a c = true)
    (htotal : ∀ a b, (notAfter a b || notAfter b a) = true) {f : α → Bool}
    (hf : ∀ a b, f a = true → f b = true → notAfter a b = true) (l : List α) :
    (l.mergeSort notAfter).filter f = l.filter f := by
  have hsorted : (l.filter f).Pairwise fun a b => notAfter a b = true :=
    List.pairwise_filter.2 (List.pairwise_of_forall hf)
  have hsublist : (l.filter f).Sublist (l.mergeSort notAfter) :=
    List.sublist_mergeSort htrans htotal hsorted List.filter_sublist
  have hfiltered := hsublist.filter f
  rw [List.filter_filter] at hfiltered
  simp only [Bool.and_self] at hfiltered
  exact (hfiltered.eq_of_length ((List.mergeSort_perm l _).filter f).length_eq.symm).symm

end Registry
end ZonePlan
