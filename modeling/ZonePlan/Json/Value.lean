/-
Decoded JSON values.

Whole numbers are kept exact, all other numbers are doubles.  An object has each name once,
and its fields keep their order.
-/
import ZonePlan.Number.Shortest
import ZonePlan.Text.Quoted

namespace ZonePlan.Json

/-- A decoded JSON value. -/
inductive Value where
  | null
  | bool (b : Bool)
  | int (n : Int)
  | float (x : Double)
  | text (t : Text)
  | array (items : List Value)
  | object (fields : List (Text × Value))
deriving Inhabited

namespace Value

/-- The text value of a string. -/
def str (s : String) : Value := .text s

/-- The field of a name; of several with one name the last counts. -/
def lookup (fields : List (Text × Value)) (name : Text) : Option Value :=
  (fields.reverse.find? fun field => field.1 = name).map (·.2)

/-- The field of an object. -/
def field? (v : Value) (name : String) : Option Value :=
  match v with
  | .object fields => lookup fields name
  | _ => none

end Value

/-- Fields with each name once: the first place of a name, with the last of its values. -/
def mergeRepeated (fields : List (Text × Value)) : List (Text × Value) :=
  fields.foldl (fun merged (name, value) =>
    if merged.any (·.1 = name) then
      merged.map fun field => if field.1 = name then (name, value) else field
    else merged ++ [(name, value)]) []

end ZonePlan.Json
