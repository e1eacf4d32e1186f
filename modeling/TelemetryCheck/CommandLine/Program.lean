import TelemetryCheck.CommandLine.Commands

/-!
# The program

Reads arguments, performs the command that they ask for and settles what else may happen.
-/

namespace TelemetryCheck
namespace CommandLine
namespace Program

open Job (print)

variable {ω : Type}

/-- What is printed where no command is performed, and the status that the program ends with. -/
def settle : Detour → Action (Session ω) ExitStatus
  | .help scope => do
    print (Console.printLine (usage scope))
    return .success
  | .version => do
    print (Console.printLine (programName ++ " " ++ programVersion))
    return .success
  | .misuse scope m => do
    print (Console.notes (m.lines scope))
    return .usageError
  | .fault f => throw (.fault f)

def perform (s : Surroundings ω) (arguments : List String) : Action (Session ω) ExitStatus := do
  match Order.ofArguments (← get).files arguments with
  | .ok order => (Commands.perform s order).status
  | .error detour => settle detour

/-- Ends quietly when someone interrupts; any other failure stays one. -/
def attended (s : Surroundings ω) (arguments : List String) : Action (Session ω) ExitStatus :=
  tryCatch (perform s arguments) fun failure => do
    if failure.isInterrupt then
      print (Console.notes ["", "Aborted!"])
      return .generalError
    else throw failure

/-- Reports any failure. -/
def guarded (s : Surroundings ω) (arguments : List String) : Action (Session ω) ExitStatus :=
  tryCatch (attended s arguments) fun failure => do
    print (Console.error failure.message [])
    return .generalError

end Program
end CommandLine
end TelemetryCheck
