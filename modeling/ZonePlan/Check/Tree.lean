/-
Checking the branches of a tree.

A check gives a value or all faults that it finds.  Checks of several branches are put
together so that a fault in one does not hide those in the others; their faults come in the
order of the checks.
-/
import ZonePlan.Check.Scalar
import ZonePlan.Failure

namespace ZonePlan

/-- The outcome of a check: a value, or the faults. -/
inductive Checked (α : Type) where
  | fits (value : α)
  | faulty (faults : List Fault)

namespace Checked

variable {α β : Type}

/-- The faults that were found. -/
def faults : Checked α → List Fault
  | .fits _ => []
  | .faulty faults => faults

/-- The same outcome with its value changed. -/
def map (f : α → β) : Checked α → Checked β
  | .fits a => .fits (f a)
  | .faulty faults => .faulty faults

/-- A function and its argument, or the faults of both. -/
def apply (f : Checked (α → β)) (x : Checked α) : Checked β :=
  match f, x with
  | .fits f, .fits a => .fits (f a)
  | f, x => .faulty (f.faults ++ x.faults)

instance : Applicative Checked where
  pure := .fits
  map := map
  seq f x := apply f (x ())

/-- A further check of a value that fits so far. -/
def andThen (x : Checked α) (f : α → Checked β) : Checked β :=
  match x with
  | .fits a => f a
  | .faulty faults => .faulty faults

/-- The same outcome, with its faults placed on a branch. -/
def under (branch : Branch) : Checked α → Checked α
  | .fits a => .fits a
  | .faulty faults => .faulty (faults.map fun f => { f with place := branch :: f.place })

/-- The outcome of reading a scalar. -/
def ofScalar : Except Misfit α → Checked α
  | .ok a => .fits a
  | .error misfit => .faulty [⟨[], misfit⟩]

/-- The value, or the faults as a failure. -/
def orFail (wrap : List Fault → Failure) : Checked α → Except Failure α
  | .fits a => .ok a
  | .faulty faults => .error (wrap faults)

end Checked

namespace Check

variable {α : Type}

/-- The fields of an object. -/
abbrev Fields := List (Text × Json.Value)

/-- Checks fields, unless a name among them is no sequence of characters: then that alone is
the fault. -/
def named (check : Fields → Checked α) (fields : Fields) : Checked α :=
  if fields.any (·.1.isBroken) then .faulty [⟨[], .brokenText⟩] else check fields

/-- Checks an object of a named model by its fields. -/
def object (reading : Reading) (model : String) (check : Fields → Checked α) :
    Json.Value → Checked α
  | .object fields => named check fields
  | _ => .faulty [⟨[], .notObject reading model⟩]

/-- Checks the items of a list from an index on. -/
def itemsFrom (check : Json.Value → Checked α) : (index : Nat) → List Json.Value → Checked (List α)
  | _, [] => .fits []
  | index, v :: rest =>
    List.cons <$> (check v).under (.item index) <*> itemsFrom check (index + 1) rest

/-- Checks a list by its items. -/
def list (reading : Reading) (check : Json.Value → Checked α) : Json.Value → Checked (List α)
  | .array items => itemsFrom check 0 items
  | _ => .faulty [⟨[], .notList reading⟩]

/-- Checks a field that must be there. -/
def required (name : String) (check : Json.Value → Checked α) (fields : Fields) : Checked α :=
  match Json.Value.lookup fields name with
  | some v => (check v).under (.field name)
  | none => .faulty [⟨[.field name], .missing⟩]

/-- Checks a field that has a default. -/
def optional (name : String) (default : α) (check : Json.Value → Checked α) (fields : Fields) :
    Checked α :=
  match Json.Value.lookup fields name with
  | some v => (check v).under (.field name)
  | none => .fits default

/-- Refuses every field but the named ones. -/
def noOthers (names : List String) (fields : Fields) : Checked Unit :=
  match fields.filter fun field => !names.any fun name => field.1 = (name : Text) with
  | [] => .fits ()
  | others => .faulty (others.map fun field => ⟨[.field field.1], .unexpected⟩)

end Check
end ZonePlan
