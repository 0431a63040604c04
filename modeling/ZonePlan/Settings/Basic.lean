/-
Settings.

Settings come from three sources: what is given by the caller, the environment, and an
environment file.  The first source that names a setting decides it.  In the environment a
setting has a prefix before its name, and letters of either case count alike.  The caller
and the file may also give settings that are not known here; they are kept as they are.
-/
import ZonePlan.Check.Tree
import ZonePlan.Registry
import ZonePlan.Settings.EnvFile
import ZonePlan.Settings.LogLevel

namespace ZonePlan

/-- The settings of a scheduler. -/
structure Settings where
  /-- Milliseconds between two runs. -/
  granularity : Int
  /-- Milliseconds before the first run. -/
  startupDelay : Int
  /-- Seconds by which a run may be late. -/
  misfireGrace : Int
  /-- Seconds that one call of an updater may take. -/
  updaterTimeout : Double
  debug : Bool
  logLevel : Text
  /-- Settings that are not known here. -/
  extras : Registry Text Json.Value

namespace Settings

/-- The number of the level from which records are kept; `debug` overrides the level. -/
def effectiveLevel (s : Settings) : Nat :=
  if s.debug then 10 else (LogLevel.number? s.logLevel).getD 0

/-! ### Checking -/

/-- Checks a log level.  What is no text names the default. -/
def checkLevel : Json.Value → Checked Text
  | .text t =>
    match LogLevel.read? t with
    | some level => .fits level
    | none => .faulty [⟨[], .objected (.unknownLevel t)⟩]
  | _ => .fits LogLevel.default

/-- The names of the settings known here. -/
def known : List Text :=
  ["schedule_granularity_ms", "startup_delay_ms", "misfire_grace_time_s", "updater_timeout_s",
    "debug", "log_level"]

open Check Checked in
/-- Checks settings by their fields. -/
def check (fields : Fields) (extras : Registry Text Json.Value) : Checked Settings :=
  (fun granularity startupDelay misfireGrace updaterTimeout debug logLevel =>
    (⟨granularity, startupDelay, misfireGrace, updaterTimeout, debug, logLevel, extras⟩ : Settings))
    <$> optional "schedule_granularity_ms" 60000 (fun v => ofScalar (wholeAbove 0 v)) fields
    <*> optional "startup_delay_ms" 10000 (fun v => ofScalar (wholeFrom 0 v)) fields
    <*> optional "misfire_grace_time_s" 60 (fun v => ofScalar (wholeFrom 1 v)) fields
    <*> optional "updater_timeout_s" (.ofInt 30) (fun v => ofScalar (positiveNumber .decoded v)) fields
    <*> optional "debug" false (fun v => ofScalar (truth v)) fields
    <*> optional "log_level" LogLevel.default checkLevel fields

/-! ### Sources -/

/-- Where settings come from. -/
structure Sources where
  /-- What the caller gives. -/
  given : Check.Fields
  environment : List (String × String)
  /-- The text of the environment file, if there is one. -/
  file : Option String

/-- What stands before the name of a setting in the environment. -/
def variablePrefix : Text := "zonescheduler_"

namespace Sources

/-- What the caller gives for a setting: of the names that differ from that of the setting in
the case of letters at most, the first one counts. -/
def given? (s : Sources) (name : Text) : Option Json.Value :=
  (s.given.find? fun field => field.1.lower = name).map (·.2)

/-- The last value that variables give a name, the case of letters aside. -/
def inVariables? (vars : List (Text × String)) (name : Text) : Option Json.Value :=
  (vars.reverse.find? fun v => v.1.lower = variablePrefix ++ name).map fun v => .str v.2

/-- The variables of the environment. -/
def environmentVariables (s : Sources) : List (Text × String) :=
  s.environment.map fun (name, value) => ((name : Text), value)

/-- The variables that the file sets, in small letters.  Of bindings of one name the last
counts, and then of names that differ in the case of letters the last one. -/
def fileVariables (s : Sources) : List (Text × String) :=
  match s.file with
  | none => []
  | some text =>
    let bound := (Registry.ofList (EnvFile.values s.environment text)).entries
    let small := Registry.ofList (bound.map fun (name, value) => (Text.lower name, value))
    small.entries.filterMap fun (name, value) => value.map fun v => (name, v)

/-- What the first source that names a setting gives for it. -/
def value? (s : Sources) (name : Text) : Option Json.Value :=
  (s.given? name).or
    ((inVariables? s.environmentVariables name).or (inVariables? s.fileVariables name))

/-- The settings of the sources that are known here. -/
def fields (s : Sources) : Check.Fields :=
  known.filterMap fun name => (s.value? name).map fun v => (name, v)

/-- Whether a name is that of a setting known here. -/
def isKnown (name : Text) : Bool := known.contains name

/-- The name under which a variable of the file is kept, if it is kept: without the prefix
when it has it and is not known, else as it is unless a setting has that name. -/
def extraName? (name : Text) : Option Text :=
  if variablePrefix.codes.isPrefixOf name.codes then
    let bare : Text := ⟨name.codes.drop variablePrefix.length⟩
    if isKnown bare then none else some bare
  else if isKnown name then none
  else some name

/-- Keeps one more variable of the file.  One with the prefix replaces one without it. -/
def addFileExtra (extras : Registry Text Json.Value) (v : Text × String) :
    Registry Text Json.Value :=
  if v.2 = "" ∨ extras.has v.1 then extras
  else match extraName? v.1 with
    | none => extras
    | some name => extras.insert name (.str v.2)

/-- The settings of the sources that are not known here.  The computed level is none of them. -/
def extras (s : Sources) : Registry Text Json.Value :=
  let ofFile := s.fileVariables.foldl addFileExtra ∅
  let given := s.given.filter fun field => !isKnown field.1.lower
  (given.foldl (fun r field => r.insert field.1 field.2) ofFile).erase "effective_log_level"

end Sources

/-- The first of the objections in faults whose wording has no bytes. -/
def unwritable? (faults : List Fault) : Option Text.EncodeFault :=
  faults.findSome? fun f => f.misfit.objection?.bind fun objection => objection.text.encodeFault?

/-- The settings that sources give.  An objection whose wording has no bytes fails at
once; else
a name that is no sequence of characters is the only fault where one is given. -/
def load (s : Sources) : Except Failure Settings :=
  let checked := check s.fields s.extras
  match unwritable? checked.faults with
  | some fault => .error (.notEncodable fault)
  | none => (Check.named (fun _ => checked) s.given).orFail .badSettings

/-- The settings where no source names any. -/
def default : Settings :=
  { granularity := 60000, startupDelay := 10000, misfireGrace := 60, updaterTimeout := .ofInt 30
    debug := false, logLevel := LogLevel.default, extras := ∅ }

/-! ### The form of log records -/

/-- How log records are written. -/
structure RecordForm where
  level : Nat
  format : String
  dateFormat : String
deriving DecidableEq, Repr

/-- How log records are written under settings. -/
def recordForm (s : Settings) : RecordForm where
  level := s.effectiveLevel
  format := "%(asctime)s - %(name)s - %(levelname)s - %(message)s"
  dateFormat := "%Y-%m-%d %H:%M:%S"

end Settings
end ZonePlan
