/-
Why something failed.

Each failure is a cause with the values it is about; its wording is in one place,
`Failure.message`.  Three questions are asked of a failure elsewhere: whether it belongs to
input and output, whether it means that the source of schedules broke its contract, and
whether it is a time-out.  They are answered by its kind.
-/
import ZonePlan.Calendar.Moment
import ZonePlan.Calendar.TimeFormat
import ZonePlan.Check.Fault
import ZonePlan.Json.Reader
import ZonePlan.Number.Count
import ZonePlan.Text.Utf8

namespace ZonePlan

/-! ### Kinds -/

/-- The kinds of failure. -/
inductive Kind where
  | badValue
  | wrongType
  | missingKey
  | overflow
  | runtime
  | undecodable
  | unencodable
  | nestedTooDeep
  | system
  | timeout
  | denied
  | updateFailed
  | misconfigured
  | malformedDocument
  | invalidSettings
  /-- Any other kind that a zone, a clock or an updater may report. -/
  | other (name : String) (inputOutput : Bool)
deriving DecidableEq, Repr

/-- Whether failures of the kind come from input and output. -/
def Kind.isInputOutput : Kind → Bool
  | .system | .timeout | .denied | .updateFailed => true
  | .other _ inputOutput => inputOutput
  | _ => false

/-- Whether failures of the kind mean a broken contract of the schedule's source. -/
def Kind.isConfiguration : Kind → Bool
  | .misconfigured | .malformedDocument => true
  | _ => false

/-! ### Causes -/

/-- The two ends of a window of time. -/
inductive Bound where
  | start
  | finish
deriving DecidableEq, Repr

/-- How messages name an end. -/
def Bound.text : Bound → String
  | .start => "Start"
  | .finish => "End"

/-- Why a file cannot be read. -/
inductive FileTrouble where
  | absent
  | isDirectory
deriving DecidableEq, Repr

/-- The wording of a trouble with a file. -/
def FileTrouble.text : FileTrouble → String
  | .absent => "[Errno 2] No such file or directory"
  | .isDirectory => "[Errno 21] Is a directory"

/-- A failure. -/
inductive Failure where
  /-- A text that no time format reads. -/
  | unreadableTime (shown : Text)
  /-- A value that is no day pattern. -/
  | badDays (shown : String)
  | emptyName
  | negativeTime (bound : Bound) (offset : Count)
  | timeBeyondDay (bound : Bound) (offset : Count)
  | windowTooShort (duration : Count)
  /-- An end of a window that is given as a double and so has no hours and minutes. -/
  | timeNotWhole
  | maskTooWide (mask : Int)
  /-- A mask that is given as a double and so has no bits. -/
  | maskNotWhole
  /-- A mask that is given as a double and is not in the range of masks. -/
  | wideMaskNotWhole
  | setpointNotFinite (setpoint : Double)
  | negativePriority (priority : Int)
  | badReading (part : Calendar.BadReading)
  /-- A number of milliseconds that is not a number. -/
  | momentNotANumber
  /-- A year beyond what the system's calendar can hold. -/
  | yearTooLarge
  | outOfRange
  /-- A part of a date or a time given with a value of a kind that is no whole number. -/
  | notAnInteger (kind : String)
  /-- A value of a kind that is neither a moment nor a number of milliseconds. -/
  | notAMoment (kind : String)
  /-- A value of a kind that is neither a moment nor a distance from midnight. -/
  | notAnOffset (kind : String)
  /-- A value of a kind that no period sorts before. -/
  | notAPeriod (kind : String)
  /-- An end of a window given with a value of a kind that does not compare with numbers. -/
  | timeNotComparable (kind : String)
  /-- A distance from midnight of a kind that has no hours and minutes. -/
  | timeNotDivisible (kind : String)
  /-- A mask given with a value of a kind that does not compare with numbers. -/
  | maskNotComparable (kind : String)
  | malformed (faults : List Fault)
  | badPeriod (zone period : String) (cause : Failure)
  | unknownZone (name : String)
  | notJson (path : String) (fault : Json.Located)
  | numberTooLong (digits : Nat)
  | nestedTooDeep (container : Json.Container)
  | unreadableFile (path : String) (trouble : FileTrouble)
  | notUtf8 (fault : Text.Utf8Fault)
  | timedOut (seconds : Double)
  /-- An updater of the named class that gave no schedule. -/
  | noSchedule (updater : String)
  | badSettings (faults : List Fault)
  /-- A message that has no bytes. -/
  | notEncodable (fault : Text.EncodeFault)
  /-- A failure that a zone, a clock or an updater reports. -/
  | reported (kind : Kind) (message : Text)

/-- The formats in which a time of day may be written, as messages list them. -/
def timeFormatList : String :=
  ", ".intercalate (Calendar.TimeFormat.all.map fun format => "'" ++ format.pattern ++ "'")

/-- A whole number in hexadecimal, with its sign. -/
def signedHex (n : Int) : String :=
  (if n < 0 then "-0x" else "0x") ++ String.ofList (Nat.toDigits 16 n.natAbs)

namespace Failure

/-- The wording of a failure. -/
def message : Failure → Text
  | .unreadableTime shown =>
    "Tried all available formats (" ++ timeFormatList ++ ") to parse '" ++ shown ++ "' and failed"
  | .badDays shown => "Days pattern must be exactly 7 characters, Monday first, got " ++ shown
  | .emptyName => "name can't be null or empty"
  | .negativeTime bound offset =>
    bound.text ++ " time given (" ++ offset.text ++ ") is negative"
  | .timeBeyondDay bound offset =>
    bound.text ++ " time given (" ++ offset.text ++ ") is beyond 24 hours"
  | .windowTooShort duration =>
    "Duration given (" ++ duration.text ++ ") is less than a minute"
  | .timeNotWhole => "Unknown format code 'd' for object of type 'float'"
  | .maskTooWide mask => "Days mask " ++ signedHex mask ++ " doesn't fit in 8 bits"
  | .maskNotWhole => "unsupported operand type(s) for &: 'float' and 'int'"
  | .wideMaskNotWhole => "Unknown format code 'x' for object of type 'float'"
  | .setpointNotFinite setpoint => "Invalid setpoint " ++ setpoint.text
  | .negativePriority priority =>
    "Dump priority must be non-negative, got " ++ toString priority
  | .badReading part => part.text
  | .momentNotANumber => "Invalid value NaN (not a number)"
  | .yearTooLarge => "[Errno 75] Value too large for defined data type"
  | .outOfRange => "out of range"
  | .notAnInteger kind => "'" ++ kind ++ "' object cannot be interpreted as an integer"
  | .notAMoment kind => "Expected datetime or epoch milliseconds, got " ++ kind
  | .notAnOffset kind => "Expected offset or datetime, got " ++ kind
  | .notAPeriod kind => "'<' not supported between instances of 'Period' and '" ++ kind ++ "'"
  | .timeNotComparable kind =>
    "'<' not supported between instances of '" ++ kind ++ "' and 'int'"
  | .timeNotDivisible kind =>
    "unsupported operand type(s) for divmod(): '" ++ kind ++ "' and 'int'"
  | .maskNotComparable kind =>
    "'<=' not supported between instances of 'int' and '" ++ kind ++ "'"
  | .malformed _ => "Malformed schedule document"
  | .badPeriod zone period cause =>
    zone ++ ": bad period '" ++ period ++ "': " ++ cause.message
  | .unknownZone name => "Unknown zone '" ++ name ++ "'"
  | .notJson path fault => path ++ " is not valid JSON: " ++ fault.text
  | .numberTooLong digits => (Json.Cause.longNumber digits).text
  | .nestedTooDeep container => (Json.Cause.nestedTooDeep container).text
  | .unreadableFile path trouble =>
    "Can't read schedule from " ++ path ++ ": " ++ trouble.text ++ ": '" ++ path ++ "'"
  | .notUtf8 fault => fault.text
  | .timedOut seconds => "Schedule updater timed out after " ++ seconds.text ++ "s"
  | .noSchedule updater => "Bad updater implementation " ++ updater ++ " returned None"
  | .badSettings _ => "Invalid settings"
  | .notEncodable fault => fault.text
  | .reported .missingKey key => Text.quoted key
  | .reported _ message => message

/-- The kind of a failure. -/
def kind : Failure → Kind
  | .notAnInteger _ | .notAMoment _ | .notAnOffset _ | .notAPeriod _ | .timeNotComparable _
  | .timeNotDivisible _ | .maskNotComparable _ | .maskNotWhole => .wrongType
  | .yearTooLarge => .system
  | .outOfRange => .overflow
  | .malformed _ | .badPeriod _ _ _ | .unknownZone _ | .notJson _ _ => .malformedDocument
  | .unreadableFile _ _ | .timedOut _ => .updateFailed
  | .notUtf8 _ => .undecodable
  | .notEncodable _ => .unencodable
  | .nestedTooDeep _ => .nestedTooDeep
  | .noSchedule _ => .misconfigured
  | .badSettings _ => .invalidSettings
  | .reported kind _ => kind
  | _ => .badValue

/-- The faults that a failure lists, if it is one that does. -/
def faults? : Failure → Option (List Fault)
  | .malformed faults | .badSettings faults => some faults
  | _ => none

end Failure
end ZonePlan
