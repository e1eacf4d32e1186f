import TelemetryCheck.Conversion
import TelemetryCheck.Definition
import TelemetryCheck.Journal
import TelemetryCheck.Path
import TelemetryCheck.TestCase

/-!
# Settings

The settings of a run come from overrides, then from environment variables, whose names ignore
case, and else from defaults.
-/

namespace TelemetryCheck

structure Settings where
  basePath : Path := .ofText "."
  timeout : Float := defaultTimeout
  absentTimeout : Float := defaultAbsentTimeout
  manualDebug : Bool := false
  verbose : Bool := false
  failFast : Bool := true
  logLevel : Level := .info
  logJson : Bool := false
  outputRoot : Path := .ofText "build"

namespace Settings

open Conversion
open Conversion.Converted

abbrev Environment := List (String × String)

abbrev Overrides := List (String × Data)

def variablePrefix : String := "TELEMETRY_ACCEPTANCE_"

/-- The names of a setting: among overrides, and in the environment. Earlier ones count before
later ones. -/
structure Names where
  overrides : List String
  environment : List String

def Names.ofField (name : String) : Names := ⟨[name], [variablePrefix ++ upperText name]⟩

def basePathNames : Names :=
  let names := [variablePrefix ++ "BASE_PATH", "JAVA_TESTCASE_BASE_PATH", "base_path"]
  ⟨names, names⟩

/-- The last variable that has a name, whatever its case. -/
def valueOf? (env : Environment) (name : String) : Option String :=
  (env.reverse.find? fun v => lowerText v.1 == lowerText name).map (·.2)

def override? (overrides : Overrides) (name : String) : Option (String × Data) :=
  overrides.find? fun o => o.1 == name

/-- The value given for a setting, with the name that complaints about it show. -/
def given? (env : Environment) (overrides : Overrides) (name : String) (names : Names) :
    Option (String × Data) :=
  (names.overrides.findSome? (override? overrides)) <|>
    (names.environment.findSome? (valueOf? env)).map fun s => (name, .text s)

def setting {α : Type} (env : Environment) (overrides : Overrides) (name : String)
    (names : Names) (absent : α) (convert : Data → Converted α) : Converted α :=
  match given? env overrides name names with
  | none => .ok absent
  | some (shown, d) => (convert d).under shown

def path : Data → Converted Path
  | .text s => .ok (.ofText s)
  | _ => refuse "Input is not a valid path for <class 'pathlib.Path'>"

/-- A text is a number of seconds or else a duration. -/
def seconds : Data → Converted Float
  | .text s =>
    match Decimal.readFloat? s.toList with
    | some x => .ok x
    | none => duration s
  | d => number d

def positiveSeconds (d : Data) : Converted Float :=
  (seconds d).andThen fun x =>
    if x > 0.0 then .ok x else refuse "Input should be greater than 0"

def levels : List Level := [.debug, .info, .warning, .error, .critical]

def level (d : Data) : Converted Level :=
  let named := match d with
    | .text s => levels.find? fun l => upperText l.text == upperText s
    | _ => none
  match named with
  | some l => .ok l
  | none => refuse "Input should be 'DEBUG', 'INFO', 'WARNING', 'ERROR' or 'CRITICAL'"

def load (env : Environment) (overrides : Overrides) : Converted Settings :=
  let plain {α : Type} (name : String) (absent : α) (convert : Data → Converted α) :=
    setting env overrides name (.ofField name) absent convert
  let defaults : Settings := {}
  Settings.mk <$> setting env overrides "base_path" basePathNames defaults.basePath path
    <*> plain "timeout" defaults.timeout positiveSeconds
    <*> plain "absent_timeout" defaults.absentTimeout positiveSeconds
    <*> plain "manual_debug" defaults.manualDebug boolean
    <*> plain "verbose" defaults.verbose boolean
    <*> plain "fail_fast" defaults.failFast boolean
    <*> plain "log_level" defaults.logLevel level
    <*> plain "log_json" defaults.logJson boolean
    <*> plain "output_root" defaults.outputRoot path

end Settings
end TelemetryCheck
