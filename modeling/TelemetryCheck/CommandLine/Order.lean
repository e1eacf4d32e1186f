import TelemetryCheck.CommandLine.Arguments
import TelemetryCheck.Files
import TelemetryCheck.Settings

/-!
# Orders

What arguments ask for: a command with a path and the settings that its options give. Options are
looked at before commands, the options of all commands before those of one.
-/

namespace TelemetryCheck
namespace CommandLine

structure Order where
  command : Command
  path : Option Path := none
  overrides : Settings.Overrides := []
  randomPorts : Bool := false

/-- Why arguments are no order: something else was asked for, or they cannot be used. -/
inductive Detour
  | help (scope : Scope)
  | version
  | misuse (scope : Scope) (m : Misuse)
  | fault (f : Fault)
  deriving Repr, DecidableEq

namespace Order

def refuse {α : Type} (scope : Scope) : Except Misuse α → Except Detour α
  | .ok a => .ok a
  | .error m => .error (.misuse scope m)

/-- Reads the arguments of one scope. A request for help or the version comes before everything
that is wrong with a value. -/
def scan (scope : Scope) (arguments : List String) : Except Detour Arguments := do
  let specs := scope.elim OptionSpec.common OptionSpec.ofCommand
  let a ← refuse scope (Arguments.parse specs scope.isNone arguments)
  match a.request? with
  | some .version => throw .version
  | some _ => throw (.help scope)
  | none => return a

def flagOverride (a : Arguments) (setting : String) : Settings.Overrides :=
  (a.flag? setting).elim [] fun b => [(setting, .bool b)]

def textOverride (a : Arguments) (setting : String) : Settings.Overrides :=
  (a.text? setting).elim [] fun s => [(setting, .text s)]

def levelNames : List String := Settings.levels.map Level.text

/-- The least level of log records, whose name may be written in any case. -/
def levelOverride (a : Arguments) : Except Misuse Settings.Overrides :=
  match a.text? "log_level" with
  | none => .ok []
  | some value =>
    if levelNames.contains (lowerText value) then .ok [("log_level", .text (upperText value))]
    else .error (.notAmong "--log-level" value levelNames)

/-- The settings that the options of all commands give, and the arguments behind them. -/
def common (arguments : List String) : Except Detour (Settings.Overrides × List String) := do
  let a ← scan none arguments
  let level ← refuse none (levelOverride a)
  return (level ++ flagOverride a "log_json" ++ flagOverride a "verbose", a.rest)

/-- The command by its name. A word that looks like an option is tried as one first. -/
def chosen : List String → Except Detour (Command × List String)
  | [] => throw (.misuse none .missingCommand)
  | name :: rest =>
    match Command.ofName? name with
    | some command => return (command, rest)
    | none => do
      if Arguments.isOption name then discard (common (name :: rest))
      throw (.misuse none (.noSuchCommand name))

/-- A path that may be looked up at all. -/
def checkedPath (files : Files) (text : String) : Except Detour Path :=
  match files.locate (.ofText text) with
  | .ok _ => .ok (.ofText text)
  | .error f => .error (.fault f)

/-- The directory for output; it must not be a file. -/
def outputRoot (files : Files) (scope : Scope) (a : Arguments) :
    Except Detour Settings.Overrides :=
  match a.text? "output_root" with
  | none => return []
  | some value => do
    let path ← checkedPath files value
    match files.isFile path with
    | .ok true =>
      if Path.isDirectoryText value then return [("output_root", .text value)]
      else throw (.misuse scope (.fileForDirectory "--output-root" value))
    | _ => return [("output_root", .text value)]

def onlyPath (files : Files) (scope : Scope) : List String → Except Detour (Option Path)
  | [] => return none
  | text :: more => do
    let path ← checkedPath files text
    if more.isEmpty then return some path else throw (.misuse scope (.unexpected more))

/-- The settings that a command takes besides the common ones. -/
def ownOverrides (a : Arguments) : Settings.Overrides :=
  textOverride a "timeout" ++ textOverride a "absent_timeout" ++ flagOverride a "fail_fast" ++
    flagOverride a "manual_debug"

def ofArguments (files : Files) (arguments : List String) : Except Detour Order := do
  let (overrides, rest) ← common arguments
  let (command, rest) ← chosen rest
  let scope := some command
  let a ← scan scope rest
  let root ← outputRoot files scope a
  let path ← onlyPath files scope a.rest
  return ⟨command, path, overrides ++ ownOverrides a ++ root,
    (a.flag? "random_ports").getD false⟩

end Order
end CommandLine
end TelemetryCheck
