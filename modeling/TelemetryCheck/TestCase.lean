import TelemetryCheck.Definition
import TelemetryCheck.Path
import TelemetryCheck.Ports
import TelemetryCheck.Time

namespace TelemetryCheck

/-- One executable test case: a definition with at most one variant of its matrix. -/
structure TestCase (τ : Type) where
  name : String
  path : Path
  dir : Path
  definition : Definition
  matrixVariant : Option String := none
  outputDir : Option Path := none
  /-- Assigned by validation where nothing was assigned before. -/
  portConfig : Option Ports := none
  /-- From the start of the endpoint until every check gives up. -/
  timeout : τ
  /-- At most so long for a check that nothing is found. -/
  absentTimeout : τ
  manualDebug : Bool := false
  deadline : Option τ := none

def defaultTimeout : Float := 30.0

def defaultAbsentTimeout : Float := 10.0

def TestCase.ports {τ : Type} (c : TestCase τ) : Ports := c.portConfig.getD {}

end TelemetryCheck
