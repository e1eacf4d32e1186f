import TelemetryCheck.Decimal.Numeral
import TelemetryCheck.Expectation
import TelemetryCheck.Text.Casing

/-!
# Definitions

A test case definition: how the environment is deployed, the variants of it, the calls that keep
the application busy, and the expectations.
-/

namespace TelemetryCheck

structure DockerCompose where
  files : List String := []
  env : List String := []
  deriving Repr, DecidableEq

structure Kubernetes where
  dir : String := ""
  appService : String := ""
  appDockerFile : String := ""
  appDockerContext : String := ""
  appDockerTag : String := ""
  appDockerPort : Int := 0
  importImages : List String := []
  deriving Repr, DecidableEq

structure MatrixVariant where
  name : String := ""
  dockerCompose : Option DockerCompose := none
  kubernetes : Option Kubernetes := none
  deriving Repr, DecidableEq

/-- A call to the application; what is empty has a default. -/
structure Input where
  scheme : String := ""
  host : String := ""
  method : String := ""
  path : String := ""
  headers : List (String × String) := []
  body : String := ""
  status : String := ""
  deriving Repr, DecidableEq

def orDefault (s default : String) : String := if s.isEmpty then default else s

def upperText (s : String) : String := String.ofList (Text.upper s.toList)

def lowerText (s : String) : String := String.ofList (Text.lower s.toList)

namespace Input

def effectiveMethod (i : Input) : String := upperText (orDefault i.method "GET")

def effectiveScheme (i : Input) : String := lowerText (orDefault i.scheme "http")

def effectiveHost (i : Input) : String := orDefault i.host "localhost"

def defaultStatus : Int := 200

/-- The expected status; a status that is no integer falls back to the default. -/
def expectedStatus (i : Input) : Int :=
  if i.status.isEmpty then defaultStatus
  else
    match Decimal.readInteger i.status.toList with
    | .ok n => n
    | .error _ => defaultStatus

end Input

structure Definition where
  includes : List String := []
  dockerCompose : Option DockerCompose := none
  kubernetes : Option Kubernetes := none
  matrix : List MatrixVariant := []
  input : List Input := []
  /-- Seconds between two attempts. -/
  interval : Option Float := none
  expected : Expected := {}

namespace Definition

def defaultInterval : Float := 0.1

/-- An interval that is not given or zero gives way to the default. -/
def pollingInterval (d : Definition) : Float :=
  match d.interval with
  | some x => if x == 0.0 then defaultInterval else x
  | none => defaultInterval

/-- Takes in an included definition: lists are joined, and what is set here counts before what is
set there. The list of includes stays. -/
def merge (a b : Definition) : Definition where
  includes := a.includes
  dockerCompose := a.dockerCompose <|> b.dockerCompose
  kubernetes := a.kubernetes <|> b.kubernetes
  matrix := a.matrix ++ b.matrix
  input := a.input ++ b.input
  interval := a.interval <|> b.interval
  expected := a.expected.append b.expected

theorem merge_includes (a b : Definition) : (a.merge b).includes = a.includes := rfl

end Definition
end TelemetryCheck
