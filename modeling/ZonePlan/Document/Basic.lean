/-
Schedule documents.

A document lists zones by name, and for each zone entries of a written period and the status
that the zone adopts while it is in force.  The document itself is plain data;
`Document.IsValid` says what a checked document fulfils.
-/
import ZonePlan.Number.Double

namespace ZonePlan

/-- A written period. -/
structure WrittenPeriod where
  name : String
  start : String
  finish : String
  days : String
deriving DecidableEq

/-- A written status. -/
structure WrittenStatus where
  setpoint : Double
  dumpPriority : Int
  enabled : Bool
  voting : Bool
deriving DecidableEq

/-- A period and the status for it. -/
structure DocumentEntry where
  period : WrittenPeriod
  status : WrittenStatus
deriving DecidableEq

/-- The entries of one zone. -/
structure ZoneEntries where
  zone : String
  entries : List DocumentEntry
deriving DecidableEq

/-- A schedule document. -/
structure Document where
  zones : List ZoneEntries
deriving DecidableEq

/-! ### Validity -/

namespace Document

/-- The longest name that a period may have. -/
def longestName : Nat := 100

/-- The letters of a day pattern that sets every day. -/
def everyDay : String := "MTWTFSS"

end Document

/-- A period that a document may hold. -/
def WrittenPeriod.IsValid (p : WrittenPeriod) : Prop :=
  1 ≤ p.name.length ∧ p.name.length ≤ Document.longestName ∧ 1 ≤ p.start.length ∧
    1 ≤ p.finish.length ∧ p.days.length = 7

/-- A status that a document may hold. -/
def WrittenStatus.IsValid (s : WrittenStatus) : Prop :=
  (∃ x, s.setpoint = .finite x) ∧ 0 ≤ s.dumpPriority

/-- The entries of a zone that a document may hold. -/
def ZoneEntries.IsValid (z : ZoneEntries) : Prop :=
  1 ≤ z.zone.length ∧ ∀ e ∈ z.entries, e.period.IsValid ∧ e.status.IsValid

/-- A document that has been checked: every part is valid and no zone is listed twice. -/
def Document.IsValid (d : Document) : Prop :=
  (∀ z ∈ d.zones, z.IsValid) ∧ (d.zones.map (·.zone)).Nodup

end ZonePlan
