import TelemetryCheck.Bench
import TelemetryCheck.TestCase
import TelemetryCheck.Validation

namespace TelemetryCheck

open Json (Value)

namespace TestCase

variable {ω τ : Type}

/-- The failure that a test case with these findings is refused with. -/
def invalid (c : TestCase τ) (findings : List String) : Failure :=
  .configuration
    { summary := "invalid test case '" ++ c.name ++ "'"
      errors := findings
      source := some c.path.toText }

/-- The test case with ports, the default ones if it has none. -/
def withPorts (c : TestCase τ) : TestCase τ := { c with portConfig := some c.ports }

def portFields (c : TestCase τ) : List (String × Value) :=
  [("test_case", .str c.name), ("application", .int c.ports.application),
    ("grafana", .int c.ports.grafana), ("prometheus", .int c.ports.prometheus),
    ("loki", .int c.ports.loki), ("tempo", .int c.ports.tempo),
    ("pyroscope", .int c.ports.pyroscope)]

/-- Lets a valid test case through, with ports; an invalid one is refused with every finding. -/
def accept (c : TestCase τ) : Action (Bench ω) (TestCase τ) := do
  let findings ← Bench.ask fun files => validateDefinition files.isFile c.dir c.definition
  unless findings.isEmpty do
    Bench.log .warning "test_case_invalid"
      [("test_case", .str c.name), ("error_count", .int findings.length)]
    throw (c.invalid findings)
  Bench.log .debug "test_case_ports" c.portFields
  return c.withPorts

end TestCase
end TelemetryCheck
