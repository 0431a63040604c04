/-
Writing JSON in ASCII.

Every code point above the ASCII range is written by the escapes of its UTF-16 units, so
half of a surrogate pair can be written as well.  Doubles are written as the shortest
decimal that reads back.
-/
import ZonePlan.Json.Value

namespace ZonePlan.Json

/-- The escape of one UTF-16 unit. -/
def unitEscape (unit : Nat) : String :=
  "\\u" ++ String.ofList (Text.hexText 4 unit)

/-- A code point inside a JSON text. -/
def codeText (code : Nat) : String :=
  if code = 0x22 then "\\\""
  else if code = 0x5c then "\\\\"
  else if 0x20 ≤ code ∧ code < 0x7f then (Char.ofNat code).toString
  else if code < 0x10000 then unitEscape code
  else
    let offset := code - 0x10000
    unitEscape (0xd800 + offset / 0x400) ++ unitEscape (0xdc00 + offset % 0x400)

/-- What is written so far, and behind it a text with its quotes. -/
def writeText (s : String) (t : Text) : String :=
  t.codes.foldl (fun s code => s ++ codeText code) (s ++ "\"") ++ "\""

/-- A double: as a decimal, or by the word for a number that JSON has no notation for. -/
def floatText : Double → String
  | .nan => "NaN"
  | .infinite negative => if negative then "-Infinity" else "Infinity"
  | x => x.text

namespace Value

mutual

/-- What is written so far, and behind it a value. -/
def write (s : String) : Value → String
  | .null => s ++ "null"
  | .bool b => s ++ if b then "true" else "false"
  | .int n => s ++ toString n
  | .float x => s ++ floatText x
  | .text t => writeText s t
  | .array items => writeItems (s ++ "[") items ++ "]"
  | .object fields => writeFields (s ++ "\x7b") fields ++ "\x7d"

/-- What is written so far, and behind it items with commas between them. -/
def writeItems (s : String) : List Value → String
  | [] => s
  | [v] => write s v
  | v :: rest => writeItems (write s v ++ ",") rest

/-- What is written so far, and behind it fields with commas between them. -/
def writeFields (s : String) : List (Text × Value) → String
  | [] => s
  | [(name, v)] => write (writeText s name ++ ":") v
  | (name, v) :: rest => writeFields (write (writeText s name ++ ":") v ++ ",") rest

end

/-- A value as JSON text. -/
def render (v : Value) : String := write "" v

end Value
end ZonePlan.Json
