/-
Checking a tree against the form of a document.

Every object of a document has fixed fields, of which some may be left out, and no others.
A tree is checked as it stands, whether it was read from JSON text or decoded before; a text
in place of a tree is read as JSON first.
-/
import ZonePlan.Check.Tree
import ZonePlan.Document.Basic
import ZonePlan.Json.Reader

namespace ZonePlan.Document

open Check Checked

/-- Checks a written period. -/
def checkPeriod (reading : Reading) : Json.Value → Checked WrittenPeriod :=
  object reading "PeriodSchema" fun fields =>
    WrittenPeriod.mk
      <$> required "name" (fun v => ofScalar (text 1 (some longestName) v)) fields
      <*> required "start" (fun v => ofScalar (text 1 none v)) fields
      <*> required "end" (fun v => ofScalar (text 1 none v)) fields
      <*> optional "days" everyDay (fun v => ofScalar (text 7 (some 7) v)) fields
      <* noOthers ["name", "start", "end", "days"] fields

/-- Checks a written status. -/
def checkStatus (reading : Reading) : Json.Value → Checked WrittenStatus :=
  object reading "ZoneStatusSchema" fun fields =>
    WrittenStatus.mk
      <$> required "setpoint" (fun v => (ofScalar (finiteNumber reading v)).map Double.finite) fields
      <*> optional "dump_priority" 0 (fun v => ofScalar (wholeFrom 0 v)) fields
      <*> optional "enabled" true (fun v => ofScalar (truth v)) fields
      <*> optional "voting" true (fun v => ofScalar (truth v)) fields
      <* noOthers ["setpoint", "dump_priority", "enabled", "voting"] fields

/-- Checks an entry. -/
def checkEntry (reading : Reading) : Json.Value → Checked DocumentEntry :=
  object reading "ScheduleEntrySchema" fun fields =>
    DocumentEntry.mk
      <$> required "period" (checkPeriod reading) fields
      <*> required "status" (checkStatus reading) fields
      <* noOthers ["period", "status"] fields

/-- Checks the entries of a zone. -/
def checkZone (reading : Reading) : Json.Value → Checked ZoneEntries :=
  object reading "ZoneScheduleSchema" fun fields =>
    ZoneEntries.mk
      <$> required "zone" (fun v => ofScalar (text 1 none v)) fields
      <*> optional "entries" [] (list reading (checkEntry reading)) fields
      <* noOthers ["zone", "entries"] fields

/-- The first name that stands in a list for the second time. -/
def repeated? (seen : List String) : List String → Option String
  | [] => none
  | name :: rest => if name ∈ seen then some name else repeated? (name :: seen) rest

/-- Refuses a zone that is listed twice. -/
def checkUnique (zones : List ZoneEntries) : Checked (List ZoneEntries) :=
  match repeated? [] (zones.map (·.zone)) with
  | none => .fits zones
  | some name => .faulty [⟨[], .objected (.listedTwice name)⟩]

/-- Checks a document. -/
def check (reading : Reading) : Json.Value → Checked Document :=
  object reading "ScheduleDocument" fun fields =>
    Document.mk
      <$> optional "zones" [] (fun v => (list reading (checkZone reading) v).andThen checkUnique) fields
      <* noOthers ["zones"] fields

/-! ### Documents from outside -/

/-- The only fault of what is no JSON text. -/
def notJson : Checked Document := .faulty [⟨[], .invalidJson⟩]

/-- Checks a document given as JSON text. -/
def checkText (s : List Char) : Checked Document :=
  match Json.read .strict s with
  | .ok v => check .text v
  | .error _ => notJson

/-- The document that a value holds, or that it writes as JSON text. -/
def parse (v : Json.Value) : Except Failure Document :=
  let checked : Checked Document := match v with
    | .text t => (ofScalar (characters t)).andThen checkText
    | v => check .decoded v
  checked.orFail .malformed

/-- The document that bytes write as JSON text. -/
def parseBytes (bytes : List Nat) : Except Failure Document :=
  let checked : Checked Document := match Text.Utf8.decode bytes with
    | .ok s => checkText s
    | .error _ => notJson
  checked.orFail .malformed

end ZonePlan.Document
