import TelemetryCheck.Definition
import TelemetryCheck.Path

/-!
# Arguments

Options may stand anywhere after the command that they belong to; the options of all commands
stand before its name. Later options replace earlier ones.
-/

namespace TelemetryCheck
namespace CommandLine

inductive OptionKind
  | text
  | flag (value : Bool)
  | help
  | version
  deriving Repr, DecidableEq

/-- An option, with the setting that it gives. -/
structure OptionSpec where
  names : List String
  setting : String
  kind : OptionKind
  deriving Repr, DecidableEq

inductive Command
  | run
  | validate
  | list
  deriving Repr, DecidableEq

namespace Command

def name : Command → String
  | .run => "run"
  | .validate => "validate"
  | .list => "list"

def all : List Command := [.run, .validate, .list]

def ofName? (name : String) : Option Command := all.find? fun c => c.name == name

end Command

def programName : String := "telemetry-acceptance"

def programVersion : String := "0.1.0"

namespace OptionSpec

def help : OptionSpec := ⟨["-h", "--help"], "help", .help⟩

/-- A pair of options that switch a setting on and off. -/
def switch (setting on off : String) : List OptionSpec :=
  [⟨[on], setting, .flag true⟩, ⟨[off], setting, .flag false⟩]

def common : List OptionSpec :=
  [help, ⟨["--version"], "version", .version⟩, ⟨["--log-level"], "log_level", .text⟩,
    ⟨["-v"], "verbose", .flag true⟩] ++
    switch "log_json" "--log-json" "--no-log-json" ++
    switch "verbose" "--verbose" "--no-verbose"

def randomPorts : OptionSpec := ⟨["--random-ports"], "random_ports", .flag true⟩

def ofCommand : Command → List OptionSpec
  | .run =>
    [help, randomPorts, ⟨["--timeout"], "timeout", .text⟩,
      ⟨["--absent-timeout"], "absent_timeout", .text⟩,
      ⟨["--output-root"], "output_root", .text⟩] ++
      switch "fail_fast" "--fail-fast" "--no-fail-fast" ++
      switch "manual_debug" "--manual-debug" "--no-manual-debug"
  | .validate => [help, randomPorts]
  | .list => [help]

end OptionSpec

/-- Why arguments cannot be used. -/
inductive Misuse
  | noSuchOption (name : String)
  | missingArgument (name : String)
  | needlessArgument (name : String)
  | unexpected (arguments : List String)
  | noSuchCommand (name : String)
  | missingCommand
  | notAmong (option value : String) (choices : List String)
  | fileForDirectory (option value : String)
  deriving Repr, DecidableEq

namespace Misuse

def message : Misuse → String
  | .noSuchOption name => "No such option " ++ Text.quoted name ++ "."
  | .missingArgument name => "Option " ++ Text.quoted name ++ " requires an argument."
  | .needlessArgument name => "Option " ++ Text.quoted name ++ " does not take a value."
  | .unexpected [argument] => "Got unexpected extra argument (" ++ argument ++ ")"
  | .unexpected arguments =>
    "Got unexpected extra arguments (" ++ " ".intercalate arguments ++ ")"
  | .noSuchCommand name => "No such command " ++ Text.quoted name ++ "."
  | .missingCommand => "Missing command."
  | .notAmong option value choices =>
    "Invalid value for '" ++ option ++ "': " ++ Text.quoted value ++ " is not one of " ++
      ", ".intercalate (choices.map Text.quoted) ++ "."
  | .fileForDirectory option value =>
    "Invalid value for '" ++ option ++ "': Directory " ++ Text.quoted value ++ " is a file."

/-- An option that is used in the wrong way is reported without the usage of the command. -/
def showsUsage : Misuse → Bool
  | .missingArgument _ | .needlessArgument _ => false
  | _ => true

end Misuse

/-- The command that arguments were for, if it was reached. -/
abbrev Scope := Option Command

def scopeName (scope : Scope) : String :=
  programName ++ scope.elim "" fun c => " " ++ c.name

def usage (scope : Scope) : String :=
  "Usage: " ++ scopeName scope ++
    if scope.isSome then " [OPTIONS] [PATH]" else " [OPTIONS] COMMAND [ARGS]..."

def Misuse.lines (scope : Scope) (m : Misuse) : List String :=
  (if m.showsUsage then
    [usage scope, "Try '" ++ scopeName scope ++ " --help' for help.", ""] else []) ++
    ["Error: " ++ m.message]

inductive Given
  | text (value : String)
  | flag (value : Bool)
  | help
  | version
  deriving Repr, DecidableEq

/-- Settings in the order of their options, and the arguments that are no options. -/
structure Arguments where
  given : List (String × Given) := []
  rest : List String := []
  deriving Repr, DecidableEq

namespace Arguments

def add (setting : String) (value : Given) (a : Arguments) : Arguments :=
  { a with given := (setting, value) :: a.given }

def addRest (argument : String) (a : Arguments) : Arguments :=
  { a with rest := argument :: a.rest }

def value? (a : Arguments) (setting : String) : Option Given :=
  (a.given.reverse.find? fun g => g.1 == setting).map (·.2)

def text? (a : Arguments) (setting : String) : Option String :=
  match a.value? setting with
  | some (.text value) => some value
  | _ => none

def flag? (a : Arguments) (setting : String) : Option Bool :=
  match a.value? setting with
  | some (.flag value) => some value
  | _ => none

/-- A request for the help or the version, the first one given. -/
def request? (a : Arguments) : Option Given :=
  (a.given.find? fun g => g.2 = .help ∨ g.2 = .version).map (·.2)

def findOption (specs : List OptionSpec) (name : String) : Except Misuse OptionSpec :=
  match specs.find? fun s => s.names.contains name with
  | some s => .ok s
  | none => .error (.noSuchOption name)

def isLong (argument : String) : Bool := "--".toList.isPrefixOf argument.toList

/-- Whether an argument is an option; a dash alone is none. -/
def isOption (argument : String) : Bool :=
  match argument.toList with
  | '-' :: _ :: _ => true
  | _ => false

/-- What an option without a text gives. -/
def givenBy? : OptionKind → Option Given
  | .text => none
  | .flag value => some (.flag value)
  | .help => some .help
  | .version => some .version

/-- The options that the letters behind one dash stand for. -/
def letters (specs : List OptionSpec) : List Char → Except Misuse (List (String × Given))
  | [] => .ok []
  | c :: rest => do
    let spec ← findOption specs (String.ofList ['-', c])
    let more ← letters specs rest
    return ((givenBy? spec.kind).elim [] fun g => [(spec.setting, g)]) ++ more

/-- The name of a long option and the text behind its equals sign. -/
def splitName (argument : String) : String × Option String :=
  let name := argument.toList.takeWhile (· ≠ '=')
  let value := argument.toList.drop (name.length + 1)
  (String.ofList name, if argument.toList.contains '=' then some (String.ofList value) else none)

/-- Reads arguments. Where options must come first, the first other argument ends them. -/
def parse (specs : List OptionSpec) (optionsFirst : Bool) : List String → Except Misuse Arguments
  | [] => .ok {}
  | argument :: rest =>
    if argument = "--" then .ok { rest := rest }
    else if !isOption argument then
      if optionsFirst then .ok { rest := argument :: rest }
      else (parse specs optionsFirst rest).map (addRest argument)
    else if !isLong argument then do
      let given ← letters specs (argument.toList.drop 1)
      let more ← parse specs optionsFirst rest
      return { more with given := given ++ more.given }
    else do
      let (name, value) := splitName argument
      let spec ← findOption specs name
      match givenBy? spec.kind, value with
      | some g, none => (parse specs optionsFirst rest).map (add spec.setting g)
      | some _, some _ => throw (.needlessArgument name)
      | none, some text => (parse specs optionsFirst rest).map (add spec.setting (.text text))
      | none, none =>
        match rest with
        | [] => throw (.missingArgument name)
        | text :: rest => (parse specs optionsFirst rest).map (add spec.setting (.text text))

end Arguments
end CommandLine
end TelemetryCheck
