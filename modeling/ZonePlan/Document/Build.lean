/-
The schedule of a document.

Zones are looked up by name, periods are read, and the table of each zone is put in the
order of its periods.  The first thing that is wrong, in the order of the document, fails
the whole schedule.
-/
import ZonePlan.Document.Check
import ZonePlan.Period.Parse

namespace ZonePlan

namespace Document

/-- The status of a written one. -/
def status (s : WrittenStatus) : Except Failure Status :=
  Status.make s.setpoint s.dumpPriority s.enabled s.voting

/-- The period of a written one. -/
def period (p : WrittenPeriod) : Logged Period :=
  Period.parse (.str p.name) (.str p.start) (.str p.finish) (.str p.days)

/-- Enters one entry of a zone into its table. -/
def addEntry (zone : String) (table : Table) (entry : DocumentEntry) : Logged Table := do
  let p ← (period entry.period).mapFailure (.badPeriod zone entry.period.name)
  if table.has p then Logged.note (.duplicatePeriod zone p)
  let s ← Logged.ofExcept (status entry.status)
  return table.insert p s

/-- The table of a zone. -/
def table (z : ZoneEntries) : Logged Table := do
  let entered ← z.entries.foldlM (addEntry z.zone) ∅
  return Table.sort entered

/-- Enters one zone into a schedule. -/
def addZone (resolve : String → Option Zone) (schedule : Schedule) (z : ZoneEntries) :
    Logged Schedule :=
  match resolve z.zone with
  | none => Logged.fail (.unknownZone z.zone)
  | some zone => do
    let t ← table z
    return schedule.insert zone t

/-- The schedule of a document, zones being found by `resolve`. -/
def schedule (resolve : String → Option Zone) (d : Document) : Logged Schedule :=
  d.zones.foldlM (addZone resolve) ∅

/-- The schedule of a document from outside. -/
def scheduleOf (resolve : String → Option Zone) (v : Json.Value) : Logged Schedule := do
  let d ← Logged.ofExcept (parse v)
  schedule resolve d

/-- The schedule of a document given as bytes. -/
def scheduleOfBytes (resolve : String → Option Zone) (bytes : List Nat) : Logged Schedule := do
  let d ← Logged.ofExcept (parseBytes bytes)
  schedule resolve d

end Document
end ZonePlan
