/-
Values as they are shown in messages.

A message shows a text as it is and every other value in a notation of its own: the names
of the kinds of value, capitalised truth values, texts inside lists and objects in quotes.
-/
import ZonePlan.Json.Value

namespace ZonePlan.Json

namespace Value

/-- The name of a value's kind in messages. -/
def kindName : Value → String
  | .null => "NoneType"
  | .bool _ => "bool"
  | .int _ => "int"
  | .float _ => "float"
  | .text _ => "str"
  | .array _ => "list"
  | .object _ => "dict"

mutual

/-- The notation of a value, texts in quotes. -/
def notated : Value → String
  | .null => "None"
  | .bool b => if b then "True" else "False"
  | .int n => toString n
  | .float x => x.text
  | .text t => t.quoted
  | .array items => "[" ++ itemsNotation items ++ "]"
  | .object fields => "\x7b" ++ fieldsNotation fields ++ "\x7d"

/-- The notations of items with commas between them. -/
def itemsNotation : List Value → String
  | [] => ""
  | [v] => notated v
  | v :: rest => notated v ++ ", " ++ itemsNotation rest

/-- The notations of fields with commas between them. -/
def fieldsNotation : List (Text × Value) → String
  | [] => ""
  | [(name, v)] => name.quoted ++ ": " ++ notated v
  | (name, v) :: rest => name.quoted ++ ": " ++ notated v ++ ", " ++ fieldsNotation rest

end

/-- A value as a message shows it: a text as it is, anything else in its notation. -/
def shown : Value → Text
  | .text t => t
  | v => v.notated

end Value
end ZonePlan.Json
