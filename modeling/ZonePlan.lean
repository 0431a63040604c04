import ZonePlan.Calendar.Date
import ZonePlan.Calendar.Moment
import ZonePlan.Calendar.TimeFormat
import ZonePlan.Calendar.When
import ZonePlan.Check.Fault
import ZonePlan.Check.Scalar
import ZonePlan.Check.Tree
import ZonePlan.Collaborator
import ZonePlan.Document.Basic
import ZonePlan.Document.Build
import ZonePlan.Document.Check
import ZonePlan.Document.File
import ZonePlan.Failure
import ZonePlan.Journal.InForce
import ZonePlan.Journal.Logged
import ZonePlan.Journal.Note
import ZonePlan.Json.Display
import ZonePlan.Json.Printer
import ZonePlan.Json.Reader
import ZonePlan.Json.Value
import ZonePlan.Number.Count
import ZonePlan.Number.Double
import ZonePlan.Number.Power
import ZonePlan.Number.Reading
import ZonePlan.Number.Rounding
import ZonePlan.Number.Shortest
import ZonePlan.Period.Basic
import ZonePlan.Period.InForce
import ZonePlan.Period.Parse
import ZonePlan.Registry
import ZonePlan.Schedule.Basic
import ZonePlan.Scheduler.Act
import ZonePlan.Scheduler.Deviation
import ZonePlan.Scheduler.Push
import ZonePlan.Scheduler.Refresh
import ZonePlan.Scheduler.Session
import ZonePlan.Scheduler.World
import ZonePlan.Setpoint
import ZonePlan.Settings.Basic
import ZonePlan.Settings.EnvFile
import ZonePlan.Settings.LogLevel
import ZonePlan.Status
import ZonePlan.Text.Basic
import ZonePlan.Text.Blank
import ZonePlan.Text.Cased
import ZonePlan.Text.Digit
import ZonePlan.Text.LineEnds
import ZonePlan.Text.Lower
import ZonePlan.Text.Printable
import ZonePlan.Text.Quoted
import ZonePlan.Text.Utf8
import ZonePlan.Zone
import ZonePlan.Proofs.Calendar.Date
import ZonePlan.Proofs.Calendar.LocalMoment
import ZonePlan.Proofs.Calendar.Reader
import ZonePlan.Proofs.Calendar.TimeFormat
import ZonePlan.Proofs.Calendar.Spelling
import ZonePlan.Proofs.Scheduler.Course
import ZonePlan.Proofs.Scheduler.Depth
import ZonePlan.Proofs.Scheduler.Moves
import ZonePlan.Proofs.Scheduler.Copies
import ZonePlan.Proofs.Scheduler.Installed
import ZonePlan.Proofs.Scheduler.Snapshot
import ZonePlan.Proofs.Scheduler.Aside
import ZonePlan.Proofs.Scheduler.Zonewise
import ZonePlan.Proofs.Period.InForce
import ZonePlan.Proofs.Period.LocalMoment
import ZonePlan.Proofs.Period.Parse
import ZonePlan.Proofs.Period.Written
import ZonePlan.Proofs.Period.WrittenTime
import ZonePlan.Proofs.Check.Tree
import ZonePlan.Proofs.Document.Build
import ZonePlan.Proofs.Document.Check
import ZonePlan.Proofs.Document.File
import ZonePlan.Proofs.Document.Table
import ZonePlan.Proofs.Scheduler.Lockstep
import ZonePlan.Proofs.Scheduler.Tick
import ZonePlan.Proofs.Scheduler.Weekly
import ZonePlan.Proofs.Scheduler.Late
import ZonePlan.Proofs.Scheduler.Calls
import ZonePlan.Proofs.Scheduler.Undisturbed
import ZonePlan.Proofs.Scheduler.Occurs
import ZonePlan.Proofs.Scheduler.Settled
import ZonePlan.Proofs.Scheduler.Applied
import ZonePlan.Proofs.Scheduler.Retelling
import ZonePlan.Proofs.Number.Double
import ZonePlan.Proofs.Number.Seconds
import ZonePlan.Proofs.Scheduler.Deviation
import ZonePlan.Proofs.Scheduler.LatestTelling
import ZonePlan.Proofs.Period.Minutes
import ZonePlan.Proofs.Document.Entries
import ZonePlan.Proofs.Number.Nearest
import ZonePlan.Proofs.Setpoint
import ZonePlan.Proofs.Settings.LogLevel
import ZonePlan.Proofs.Settings.Load
import ZonePlan.Proofs.Text.LineEnds
import ZonePlan.Proofs.Json.Quoted
import ZonePlan.Proofs.Json.Leaf
import ZonePlan.Proofs.Json.Grammar
import ZonePlan.Proofs.Json.Compact
import ZonePlan.Proofs.Json.Dialect
import ZonePlan.Proofs.Json.LineEnds
import ZonePlan.Proofs.Document.Form
import ZonePlan.Proofs.Document.JsonText
