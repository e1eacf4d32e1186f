import TelemetryCheck.Failure
import TelemetryCheck.Text.Line

/-!
# The console

What a command prints: results to the standard output, everything else to the standard error
output.
-/

namespace TelemetryCheck
namespace CommandLine

inductive ExitStatus
  | success
  | generalError
  | usageError
  | fileNotFound
  | validationError
  | checkFailed
  deriving Repr, DecidableEq

def ExitStatus.code : ExitStatus → Nat
  | .success => 0
  | .generalError => 1
  | .usageError => 2
  | .fileNotFound => 3
  | .validationError => 5
  | .checkFailed => 6

structure Console where
  out : String := ""
  err : String := ""
  deriving Repr, DecidableEq

/-- Named values that a message ends with; those that are not known are left out. -/
abbrev Context := List (String × Option String)

def contextText (context : Context) : String :=
  let known := context.filterMap fun p => p.2.map fun value => p.1 ++ "=" ++ value
  if known.isEmpty then "" else " (" ++ ", ".intercalate known ++ ")"

namespace Console

def printLine (line : String) (c : Console) : Console := { c with out := c.out ++ line ++ "\n" }

def noteLine (line : String) (c : Console) : Console := { c with err := c.err ++ line ++ "\n" }

def error (message : String) (context : Context) (c : Console) : Console :=
  c.noteLine ("Error: " ++ message ++ contextText context)

def warn (message : String) (context : Context) (c : Console) : Console :=
  c.noteLine ("Warning: " ++ message ++ contextText context)

def notes (lines : List String) (c : Console) : Console := lines.foldl (fun c l => c.noteLine l) c

/-- The first line of what went wrong. -/
def headline (m : Misconfiguration) : String :=
  String.ofList ((Text.lines m.message.toList).headD [])

/-- The headline and every single failure. -/
def misconfiguration (m : Misconfiguration) (c : Console) : Console :=
  (c.error (headline m) []).notes (m.errors.map fun e => "  - " ++ e)

end Console
end CommandLine
end TelemetryCheck
