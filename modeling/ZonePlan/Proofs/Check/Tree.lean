/-
What a check that succeeds has found.

Checks are put together from those of the parts of a tree, and one of them gives a value just if
all of its parts do.  For each way of putting checks together it is said here which values these
are, so that what a check ensures can be read off the way in which it is put together.
-/
import Mathlib.Data.List.Forall2
import ZonePlan.Check.Tree

namespace ZonePlan

namespace Checked

variable {α β : Type}

@[simp]
theorem map_eq_fits {f : α → β} {x : Checked α} {b : β} :
    f <$> x = .fits b ↔ ∃ a, x = .fits a ∧ f a = b := by
  constructor
  · intro h
    cases x with
    | fits a => exact ⟨a, rfl, fits.inj h⟩
    | faulty faults => cases h
  · rintro ⟨a, rfl, rfl⟩
    rfl

@[simp]
theorem seq_eq_fits {f : Checked (α → β)} {x : Checked α} {b : β} :
    f <*> x = .fits b ↔ ∃ g a, f = .fits g ∧ x = .fits a ∧ g a = b := by
  constructor
  · intro h
    cases f with
    | fits g =>
      cases x with
      | fits a => exact ⟨g, a, rfl, rfl, fits.inj h⟩
      | faulty faults => cases h
    | faulty faults => cases h
  · rintro ⟨g, a, rfl, rfl, rfl⟩
    rfl

@[simp]
theorem seqLeft_eq_fits {x : Checked α} {y : Checked β} {a : α} :
    x <* y = .fits a ↔ x = .fits a ∧ ∃ b, y = .fits b := by
  constructor
  · intro h
    obtain ⟨g, b, hg, hb, rfl⟩ := seq_eq_fits.1 h
    obtain ⟨a', ha, rfl⟩ := map_eq_fits.1 hg
    exact ⟨ha, b, hb⟩
  · rintro ⟨rfl, b, rfl⟩
    rfl

@[simp]
theorem mapped_eq_fits {f : α → β} {x : Checked α} {b : β} :
    x.map f = .fits b ↔ ∃ a, x = .fits a ∧ f a = b := map_eq_fits

@[simp]
theorem andThen_eq_fits {x : Checked α} {f : α → Checked β} {b : β} :
    x.andThen f = .fits b ↔ ∃ a, x = .fits a ∧ f a = .fits b := by
  cases x with
  | fits a => simp [andThen]
  | faulty faults => simp [andThen]

@[simp]
theorem under_eq_fits {branch : Branch} {x : Checked α} {a : α} :
    x.under branch = .fits a ↔ x = .fits a := by
  cases x with
  | fits a => rfl
  | faulty faults => exact ⟨nofun, nofun⟩

@[simp]
theorem ofScalar_eq_fits {x : Except Misfit α} {a : α} : ofScalar x = .fits a ↔ x = .ok a := by
  cases x with
  | ok a => simp [ofScalar]
  | error misfit => simp [ofScalar]

theorem orFail_eq_ok {wrap : List Fault → Failure} {x : Checked α} {a : α} :
    x.orFail wrap = .ok a ↔ x = .fits a := by
  cases x with
  | fits a => simp [orFail]
  | faulty faults => simp [orFail]

/-- A check fails with its faults. -/
theorem orFail_eq_error {wrap : List Fault → Failure} {x : Checked α} {f : Failure} :
    x.orFail wrap = .error f ↔ ∃ faults, x = .faulty faults ∧ f = wrap faults := by
  cases x with
  | fits a => simp [orFail]
  | faulty faults => simp [orFail, eq_comm]

end Checked

namespace Check

open Checked

variable {α : Type}

theorem named_eq_fits {check : Fields → Checked α} {fields : Fields} {a : α} :
    named check fields = .fits a ↔
      fields.any (·.1.isBroken) = false ∧ check fields = .fits a := by
  unfold named
  cases fields.any (·.1.isBroken) with
  | true => exact ⟨nofun, nofun⟩
  | false => exact ⟨fun h => ⟨rfl, h⟩, fun h => h.2⟩

/-- An object fits by its fields, if all of their names consist of characters. -/
theorem object_eq_fits {reading : Reading} {model : String} {check : Fields → Checked α}
    {v : Json.Value} {a : α} : object reading model check v = .fits a ↔
      ∃ fields, v = .object fields ∧ fields.any (·.1.isBroken) = false ∧ check fields = .fits a := by
  unfold object
  split
  · rename_i fields
    rw [named_eq_fits]
    constructor
    · exact fun h => ⟨fields, rfl, h⟩
    · rintro ⟨_, hv, h⟩
      cases hv
      exact h
  · rename_i hother
    exact ⟨nofun, fun ⟨fields, hv, _⟩ => absurd hv (hother fields)⟩

theorem itemsFrom_eq_fits {check : Json.Value → Checked α} {items : List Json.Value} {index : Nat}
    {values : List α} : itemsFrom check index items = .fits values ↔
      List.Forall₂ (fun v a => check v = .fits a) items values := by
  induction items generalizing index values with
  | nil => simp [itemsFrom, eq_comm]
  | cons v rest ih =>
    simp only [itemsFrom, seq_eq_fits, map_eq_fits, under_eq_fits, ih, List.forall₂_cons_left_iff]
    constructor
    · rintro ⟨_, tail, ⟨a, ha, rfl⟩, htail, rfl⟩
      exact ⟨a, tail, ha, htail, rfl⟩
    · rintro ⟨a, tail, ha, htail, rfl⟩
      exact ⟨_, tail, ⟨a, ha, rfl⟩, htail, rfl⟩

/-- A list fits item by item. -/
theorem list_eq_fits {reading : Reading} {check : Json.Value → Checked α} {v : Json.Value}
    {values : List α} : list reading check v = .fits values ↔
      ∃ items, v = .array items ∧ List.Forall₂ (fun v a => check v = .fits a) items values := by
  unfold list
  split
  · rename_i items
    rw [itemsFrom_eq_fits]
    simp
  · rename_i hother
    exact ⟨nofun, fun ⟨items, hv, _⟩ => absurd hv (hother items)⟩

theorem required_eq_fits {name : String} {check : Json.Value → Checked α} {fields : Fields}
    {a : α} : required name check fields = .fits a ↔
      ∃ v, Json.Value.lookup fields name = some v ∧ check v = .fits a := by
  unfold required
  cases Json.Value.lookup fields name <;> simp

/-- A field that may be left out fits by its value, or by its default. -/
theorem optional_eq_fits {name : String} {default : α} {check : Json.Value → Checked α}
    {fields : Fields} {a : α} : optional name default check fields = .fits a ↔
      (∃ v, Json.Value.lookup fields name = some v ∧ check v = .fits a) ∨
        Json.Value.lookup fields name = none ∧ default = a := by
  unfold optional
  cases Json.Value.lookup fields name <;> simp

/-- What the check of a field ensures holds of the field. -/
theorem of_required {P : α → Prop} {name : String} {check : Json.Value → Checked α}
    {fields : Fields} {a : α} (hcheck : ∀ v a, check v = .fits a → P a)
    (h : required name check fields = .fits a) : P a := by
  obtain ⟨v, -, hv⟩ := required_eq_fits.1 h
  exact hcheck v a hv

/-- What the check of a field ensures, and its default fulfils, holds of the field. -/
theorem of_optional {P : α → Prop} {name : String} {default : α} {check : Json.Value → Checked α}
    {fields : Fields} {a : α} (hdefault : P default) (hcheck : ∀ v a, check v = .fits a → P a)
    (h : optional name default check fields = .fits a) : P a := by
  rcases optional_eq_fits.1 h with ⟨v, -, hv⟩ | ⟨-, rfl⟩
  · exact hcheck v a hv
  · exact hdefault

/-- What the check of an item ensures holds of all items. -/
theorem forall_of_list {P : α → Prop} {reading : Reading} {check : Json.Value → Checked α}
    (hcheck : ∀ v a, check v = .fits a → P a) {v : Json.Value} {values : List α}
    (h : list reading check v = .fits values) : ∀ a ∈ values, P a := by
  obtain ⟨items, -, hitems⟩ := list_eq_fits.1 h
  clear h
  induction hitems with
  | nil => simp
  | cons hfirst _ ih => exact List.forall_mem_cons.2 ⟨hcheck _ _ hfirst, ih⟩

/-! ### Scalars -/

theorem ofLength_eq_ok {least : Nat} {most : Option Nat} {s : List Char} {t : String} :
    ofLength least most s = .ok t ↔
      least ≤ s.length ∧ (∀ n ∈ most, s.length ≤ n) ∧ String.ofList s = t := by
  unfold ofLength
  by_cases hshort : s.length < least
  · rw [if_pos hshort]
    exact ⟨nofun, fun h => absurd h.1 (Nat.not_le.2 hshort)⟩
  rw [if_neg hshort]
  cases most with
  | none => simp [Nat.le_of_not_lt hshort]
  | some most =>
    by_cases hlong : most < s.length
    · simp only [if_pos hlong]
      exact ⟨nofun, fun h => absurd (h.2.1 most rfl) (Nat.not_le.2 hlong)⟩
    · simp [hlong, Nat.le_of_not_lt hshort, Nat.le_of_not_lt hlong]

/-- A text that fits has a length within its bounds. -/
theorem length_of_text {least : Nat} {most : Option Nat} {v : Json.Value} {s : String}
    (h : text least most v = .ok s) : least ≤ s.length ∧ ∀ n ∈ most, s.length ≤ n := by
  unfold text at h
  split at h
  · rename_i t
    cases hchars : characters t with
    | error misfit =>
      rw [hchars] at h
      cases h
    | ok chars =>
      rw [hchars] at h
      obtain ⟨hleast, hmost, rfl⟩ := ofLength_eq_ok.1 h
      rw [String.length_ofList]
      exact ⟨hleast, hmost⟩
  · cases h

/-- A whole number that fits is not below its bound. -/
theorem le_of_wholeFrom {least n : Int} {v : Json.Value} (h : wholeFrom least v = .ok n) :
    least ≤ n := by
  unfold wholeFrom at h
  split at h
  · split at h
    · cases h
    · rename_i hnot
      obtain rfl := Except.ok.inj h
      exact Int.not_lt.1 hnot
  · cases h

end Check
end ZonePlan
