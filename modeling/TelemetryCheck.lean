import TelemetryCheck.Main
import TelemetryCheck.Proofs.Findings
import TelemetryCheck.Proofs.Verdict
import TelemetryCheck.Proofs.Inclusion.Walk
import TelemetryCheck.Proofs.Inclusion.Gathering
import TelemetryCheck.Proofs.Files.Places
import TelemetryCheck.Proofs.Json.Fields
import TelemetryCheck.Proofs.Inclusion.Flattening
import TelemetryCheck.Proofs.Inclusion.Loading
import TelemetryCheck.Proofs.Running.Observation
import TelemetryCheck.Proofs.Running.Answers
import TelemetryCheck.Proofs.Running.Round
import TelemetryCheck.Proofs.Running.CheckVerdict
import TelemetryCheck.Proofs.Refinement
import TelemetryCheck.Proofs.Polling.Rounds
import TelemetryCheck.Proofs.Polling.Transcript
import TelemetryCheck.Proofs.Running.Refinement
import TelemetryCheck.Proofs.Running.Along
import TelemetryCheck.Proofs.Running.Course
import TelemetryCheck.Proofs.Running.Lifecycle
import TelemetryCheck.Proofs.Running.Coverage
import TelemetryCheck.Proofs.Running.Chronicle
import TelemetryCheck.Proofs.Time.Exact
import TelemetryCheck.Proofs.Running.Pace
import TelemetryCheck.Proofs.Running.Deadline
import TelemetryCheck.Proofs.FirstFailure
import TelemetryCheck.Proofs.Text.Digits
import TelemetryCheck.Proofs.Response.AttributeFaults
import TelemetryCheck.Proofs.Files.Questions
import TelemetryCheck.Proofs.Response.Retrying
import TelemetryCheck.Proofs.Validation.Escapes
import TelemetryCheck.Proofs.Suite.Reading
import TelemetryCheck.Proofs.Suite.Names
import TelemetryCheck.Proofs.Inclusion.Escapes
import TelemetryCheck.Proofs.CommandLine.Endings
import TelemetryCheck.Proofs.Running.Opening
import TelemetryCheck.Proofs.Running.Truncation
import TelemetryCheck.Proofs.CommandLine.Exits
import TelemetryCheck.Proofs.Files.Relisting
import TelemetryCheck.Proofs.Suite.Discovery
import TelemetryCheck.Proofs.Suite.Matrix
import TelemetryCheck.Proofs.Matching.Counts
import TelemetryCheck.Proofs.Matching.Fulfilment
import TelemetryCheck.Proofs.Matching.Growth
import TelemetryCheck.Proofs.Conversion.Converted
import TelemetryCheck.Proofs.Conversion.Accepted
import TelemetryCheck.Proofs.Time.Extended
import TelemetryCheck.Proofs.Polling.Attempts
import TelemetryCheck.Proofs.Ports.Allocation
import TelemetryCheck.Proofs.Ports.Assignment
import TelemetryCheck.Proofs.Validation.Parts
import TelemetryCheck.Proofs.Duration.Grammar
import TelemetryCheck.Proofs.Response.WellFormed
import TelemetryCheck.Proofs.Response.SpanRecords
import TelemetryCheck.Proofs.Requests.Validated
import TelemetryCheck.Proofs.Promql.Substitution
import TelemetryCheck.Proofs.Requests.Authority
import TelemetryCheck.Proofs.Files.Parts
import TelemetryCheck.Proofs.Files.Untouched
import TelemetryCheck.Proofs.Suite.OutputDirectories
import TelemetryCheck.Proofs.Endpoint.OutputSearch
import TelemetryCheck.Proofs.Json.Strings
import TelemetryCheck.Proofs.Json.RoundTrip
import TelemetryCheck.Proofs.Response.Rendering
import TelemetryCheck.Proofs.Conversion.StrictKeys
import TelemetryCheck.Proofs.Running.ManualDebug
import TelemetryCheck.Proofs.Heartbeat.Rhythm
