/-
Faults of a checked tree.

Checking a decoded tree against the fields it should have does not stop at the first fault:
all are reported, each with its place and its cause.  Two of the causes are worded
differently for JSON text and for a tree that was decoded before.
-/
import ZonePlan.Json.Value

namespace ZonePlan

/-- How a tree is read: straight from JSON text, or as decoded before. -/
inductive Reading where
  | text
  | decoded
deriving DecidableEq, Repr

/-- One branch on the way to a place in a tree. -/
inductive Branch where
  | field (name : Text)
  | item (index : Nat)
deriving DecidableEq

/-- What is objected to a value that is of the right form. -/
inductive Objection where
  | listedTwice (zone : String)
  | unknownLevel (level : Text)
deriving DecidableEq

/-- The wording of an objection. -/
def Objection.text : Objection → Text
  | .listedTwice zone => "Zone '" ++ zone ++ "' is listed more than once"
  | .unknownLevel level => "Unknown log level '" ++ level ++ "'"

/-- Why a value does not fit its field. -/
inductive Misfit where
  | invalidJson
  | missing
  | unexpected
  /-- No object where one of the named model is due. -/
  | notObject (reading : Reading) (model : String)
  | notList (reading : Reading)
  | notText
  | brokenText
  | tooShort (least : Nat)
  | tooLong (most : Nat)
  | notNumber
  | unreadableNumber
  | notFinite
  | notWhole
  | unreadableWhole
  | fractional
  | wholeTooLarge
  | notTruth
  | unreadableTruth
  | below (least : Int)
  | notAbove (bound : Int)
  | objected (objection : Objection)
deriving DecidableEq

/-- A misfit and its place. -/
structure Fault where
  place : List Branch
  misfit : Misfit
deriving DecidableEq

/-- The name of a misfit. -/
def Misfit.name : Misfit → String
  | .invalidJson => "json_invalid"
  | .missing => "missing"
  | .unexpected => "extra_forbidden"
  | .notObject _ _ => "model_type"
  | .notList _ => "list_type"
  | .notText => "string_type"
  | .brokenText => "string_unicode"
  | .tooShort _ => "string_too_short"
  | .tooLong _ => "string_too_long"
  | .notNumber => "float_type"
  | .unreadableNumber => "float_parsing"
  | .notFinite => "finite_number"
  | .notWhole => "int_type"
  | .unreadableWhole => "int_parsing"
  | .fractional => "int_from_float"
  | .wholeTooLarge => "int_parsing_size"
  | .notTruth => "bool_type"
  | .unreadableTruth => "bool_parsing"
  | .below _ => "greater_than_equal"
  | .notAbove _ => "greater_than"
  | .objected _ => "value_error"

/-- A number of characters. -/
def charactersText (n : Nat) : String :=
  toString n ++ (if n = 1 then " character" else " characters")

/-- The wording of a misfit. -/
def Misfit.text : Misfit → Text
  | .invalidJson => "Invalid JSON"
  | .missing => "Field required"
  | .unexpected => "Extra inputs are not permitted"
  | .notObject .text _ => "Input should be an object"
  | .notObject .decoded model => "Input should be a valid dictionary or instance of " ++ model
  | .notList .text => "Input should be a valid array"
  | .notList .decoded => "Input should be a valid list"
  | .notText => "Input should be a valid string"
  | .brokenText =>
    "Input should be a valid string, unable to parse raw data as a unicode string"
  | .tooShort least => "String should have at least " ++ charactersText least
  | .tooLong most => "String should have at most " ++ charactersText most
  | .notNumber => "Input should be a valid number"
  | .unreadableNumber =>
    "Input should be a valid number, unable to parse string as a number"
  | .notFinite => "Input should be a finite number"
  | .notWhole => "Input should be a valid integer"
  | .unreadableWhole =>
    "Input should be a valid integer, unable to parse string as an integer"
  | .fractional => "Input should be a valid integer, got a number with a fractional part"
  | .wholeTooLarge => "Unable to parse input string as an integer, exceeded maximum size"
  | .notTruth => "Input should be a valid boolean"
  | .unreadableTruth => "Input should be a valid boolean, unable to interpret input"
  | .below least => "Input should be greater than or equal to " ++ toString least
  | .notAbove bound => "Input should be greater than " ++ toString bound
  | .objected objection => "Value error, " ++ objection.text

/-- What is objected, if the misfit is an objection. -/
def Misfit.objection? : Misfit → Option Objection
  | .objected objection => some objection
  | _ => none

end ZonePlan
