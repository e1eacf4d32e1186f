import TelemetryCheck.Bench
import TelemetryCheck.CommandLine.Console

/-!
# Terminals

Where a command works: what it prints, how it sets up logging, and the world outside. A command
may end early with a status of its own; that is no failure.
-/

namespace TelemetryCheck
namespace CommandLine

structure Terminal (ω : Type) where
  outside : ω
  console : Console := {}
  /-- Each time that logging was set up: the least level, and whether records are JSON. -/
  logging : List (Level × Bool) := []

abbrev Session (ω : Type) : Type := Bench (Terminal ω)

/-- A command at work. It ends with a result or early with a status, unless it fails. -/
abbrev Job (ω α : Type) : Type := ExceptT ExitStatus (Action (Session ω)) α

namespace Job

variable {ω α : Type}

/-- An action at the terminal that is no reason to end. -/
def ofAction (a : Action (Session ω) α) : Job ω α := ExceptT.lift a

/-- An action on the bench while a command is at work. -/
def outside (a : Action (Bench ω) α) : Job ω α :=
  ofAction (a.onPart (fun b => b.withWorld b.world.outside)
    fun inner b => inner.withWorld { b.world with outside := inner.world })

def print (change : Console → Console) : Action (Session ω) Unit :=
  modify fun b => { b with world := { b.world with console := change b.world.console } }

def say (change : Console → Console) : Job ω Unit := ofAction (print change)

def setLogging (level : Level) (json : Bool) : Job ω Unit :=
  ofAction (modify fun b =>
    { b with world := { b.world with logging := b.world.logging ++ [(level, json)] } })

/-- Says why a command ends here, and ends it. -/
def stop (status : ExitStatus) (change : Console → Console) : Job ω α := do
  say change
  throw status

def status (job : Job ω Unit) : Action (Session ω) ExitStatus := do
  match ← job.run with
  | .ok () => return .success
  | .error status => return status

end Job
end CommandLine
end TelemetryCheck
