/-
Work that takes notes.

A piece of work either gives a value or fails; in both cases the notes taken on the way
remain.
-/
import ZonePlan.Journal.Note

namespace ZonePlan

/-- The outcome of a piece of work, and its notes in order. -/
structure Logged (α : Type) where
  notes : List WorkNote
  result : Except Failure α

namespace Logged

variable {α β : Type}

/-- Takes one note. -/
def note (n : WorkNote) : Logged Unit := ⟨[n], .ok ()⟩

/-- Takes several notes. -/
def noteAll (notes : List WorkNote) : Logged Unit := ⟨notes, .ok ()⟩

/-- An outcome without notes. -/
def ofExcept (result : Except Failure α) : Logged α := ⟨[], result⟩

/-- A failure without notes. -/
def fail (f : Failure) : Logged α := ⟨[], .error f⟩

protected def bind (x : Logged α) (f : α → Logged β) : Logged β :=
  match x.result with
  | .ok a => ⟨x.notes ++ (f a).notes, (f a).result⟩
  | .error e => ⟨x.notes, .error e⟩

instance : Monad Logged where
  pure a := ⟨[], .ok a⟩
  bind := Logged.bind

/-- The same outcome with a failure seen in a wider context. -/
def mapFailure (f : Failure → Failure) (x : Logged α) : Logged α :=
  { x with result := x.result.mapError f }

/-! ### Outcomes do not depend on notes -/

@[simp] theorem result_pure (a : α) : (pure a : Logged α).result = .ok a := rfl

@[simp] theorem result_note (n : WorkNote) : (note n).result = .ok () := rfl

@[simp] theorem result_noteAll (notes : List WorkNote) : (noteAll notes).result = .ok () := rfl

@[simp] theorem result_ofExcept (r : Except Failure α) : (ofExcept r).result = r := rfl

@[simp] theorem result_fail (f : Failure) : (fail f : Logged α).result = .error f := rfl

@[simp] theorem result_bind (x : Logged α) (f : α → Logged β) :
    (x >>= f).result = x.result.bind fun a => (f a).result := by
  change (Logged.bind x f).result = _
  unfold Logged.bind
  cases x.result <;> rfl

end Logged
end ZonePlan
