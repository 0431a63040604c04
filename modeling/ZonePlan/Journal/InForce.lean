/-
Noting what is in force.

Every search for the period in force leaves a note of what it found.
-/
import ZonePlan.Journal.Logged

namespace ZonePlan

/-- The note on what a search found. -/
def WorkNote.ofSearch (w : When) : Option Period → WorkNote
  | some p => .periodMatches p w
  | none => .noPeriodMatches w

/-- The period in force at what is given for a moment, noted. -/
def Period.noteInForce (ahead : Int) (periods : List Period) (w : When) : Logged (Option Period) := do
  let period ← Logged.ofExcept (inForceAt ahead periods w)
  Logged.note (.ofSearch w period)
  return period

/-- The period in force at what is given for a moment with its status, noted. -/
def Table.noteInForce (ahead : Int) (t : Table) (w : When) : Logged (Option (Period × Status)) := do
  let found ← Logged.ofExcept (t.inForceAt ahead w)
  Logged.note (.ofSearch w (found.map (·.1)))
  return found

end ZonePlan
