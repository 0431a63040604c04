/-
Registries of entries that were entered one after the other.

A key that is entered again keeps its place and gets the new value.  So the keys of `ofList`
stand in the order in which each of them came first (`keys_ofList_pairwise`), and the value of a
key is the one that came last (`get?_ofList_eq_some`).  The two ends meet where no key came twice:
then nothing was replaced, and the entries are as they were (`entries_ofList`).

Each of these is shown for one entry more at the end.
-/
import Mathlib.Data.List.Basic
import Mathlib.Data.List.Induction
import ZonePlan.Registry

namespace ZonePlan.Registry

variable {κ α : Type} [DecidableEq κ]

theorem keys_insert (r : Registry κ α) (k : κ) (a : α) :
    (r.insert k a).keys = if r.has k then r.keys else r.keys ++ [k] := by
  unfold insert
  split
  · rename_i h
    rw [h]
    exact List.map_append
  · rename_i h
    rw [Bool.not_eq_false] at h
    rw [h]
    exact map_fst_replaceIn k a r.entries

theorem has_congr {r s : Registry κ α} (h : r.keys = s.keys) (k : κ) : r.has k = s.has k := by
  rw [Bool.eq_iff_iff, has_iff_mem_keys, has_iff_mem_keys, h]

theorem ofList_append (entries : List (κ × α)) (k : κ) (a : α) :
    ofList (entries ++ [(k, a)]) = (ofList entries).insert k a := by
  rw [ofList, List.foldl_append]
  rfl

theorem mem_keys_ofList {entries : List (κ × α)} {k : κ} :
    k ∈ (ofList entries).keys ↔ k ∈ entries.map (·.1) := by
  induction entries using List.reverseRecOn with
  | nil => rfl
  | append_singleton earlier e ih =>
    rw [ofList_append, keys_insert, List.map_append, List.map_singleton, List.mem_append,
      List.mem_singleton, ← ih]
    split
    · rename_i h
      refine ⟨.inl, fun hk => hk.elim id fun heq => ?_⟩
      rw [heq]
      exact has_iff_mem_keys.1 h
    · rw [List.mem_append, List.mem_singleton]

/-- Keys stand in the order in which they came first. -/
theorem keys_ofList_pairwise (entries : List (κ × α)) :
    (ofList entries).keys.Pairwise fun k l =>
      (entries.map (·.1)).idxOf k < (entries.map (·.1)).idxOf l := by
  induction entries using List.reverseRecOn with
  | nil => exact .nil
  | append_singleton earlier e ih =>
    have hplace : ∀ k ∈ (ofList earlier).keys,
        (earlier.map (·.1) ++ [e.1]).idxOf k = (earlier.map (·.1)).idxOf k :=
      fun k hk => List.idxOf_append_of_mem (mem_keys_ofList.1 hk)
    have hkept : (ofList earlier).keys.Pairwise fun k l =>
        (earlier.map (·.1) ++ [e.1]).idxOf k < (earlier.map (·.1) ++ [e.1]).idxOf l := by
      refine ih.imp_of_mem fun hk hl hlt => ?_
      rwa [hplace _ hk, hplace _ hl]
    rw [ofList_append, keys_insert, List.map_append, List.map_singleton]
    split
    · exact hkept
    · rename_i h
      have hnew : e.1 ∉ earlier.map (·.1) := by
        rw [← mem_keys_ofList, ← has_iff_mem_keys]
        exact h
      refine List.pairwise_append.2 ⟨hkept, List.pairwise_singleton _ _, fun k hk l hl => ?_⟩
      rw [List.mem_singleton.1 hl, hplace k hk, List.idxOf_append_of_notMem hnew,
        List.idxOf_cons_self, Nat.add_zero]
      exact List.idxOf_lt_length_of_mem (mem_keys_ofList.1 hk)

/-- The value of a key is the one that came last. -/
theorem get?_ofList_eq_some {entries : List (κ × α)} {k : κ} {a : α}
    (h : (ofList entries).get? k = some a) :
    ∃ before after, entries = before ++ (k, a) :: after ∧ ∀ e ∈ after, e.1 ≠ k := by
  induction entries using List.reverseRecOn with
  | nil => simp [ofList] at h
  | append_singleton earlier e ih =>
    rw [ofList_append, get?_insert] at h
    by_cases hk : k = e.1
    · rw [if_pos hk, Option.some.injEq] at h
      refine ⟨earlier, [], ?_, fun _ h => absurd h List.not_mem_nil⟩
      rw [hk, ← h]
    · rw [if_neg hk] at h
      obtain ⟨before, after, rfl, hafter⟩ := ih h
      refine ⟨before, after ++ [e], by simp, ?_⟩
      rw [List.forall_mem_append, List.forall_mem_singleton]
      exact ⟨hafter, Ne.symm hk⟩

/-- Where no key came twice, the entries are as they were entered. -/
theorem entries_ofList {entries : List (κ × α)} (h : (entries.map (·.1)).Nodup) :
    (ofList entries).entries = entries := by
  induction entries using List.reverseRecOn with
  | nil => rfl
  | append_singleton earlier e ih =>
    rw [List.map_append, List.map_singleton, List.nodup_append] at h
    have hnew : (ofList earlier).has e.1 = false := by
      rw [has_eq_false, mem_keys_ofList]
      exact fun hmem => h.2.2 e.1 hmem e.1 List.mem_cons_self rfl
    rw [ofList_append, insert, dif_pos hnew]
    show (ofList earlier).entries ++ [e] = earlier ++ [e]
    rw [ih h.1]

end ZonePlan.Registry
