import TelemetryCheck.Comparator
import TelemetryCheck.Definition
import TelemetryCheck.Matching
import TelemetryCheck.Promql
import TelemetryCheck.Response.Logs
import TelemetryCheck.Response.Metrics
import TelemetryCheck.Response.Profiles
import TelemetryCheck.Response.Traces

/-!
# Checks

Each expectation becomes one check. A check knows what it asks for and judges what was answered.
-/

namespace TelemetryCheck

inductive CheckKind
  | composeLogs | logs | traces | metrics | profiles | custom
  deriving Repr, DecidableEq

namespace CheckKind

/-- Logs and traces come before metrics, which take longer to arrive. -/
def all : List CheckKind := [.composeLogs, .logs, .traces, .metrics, .profiles, .custom]

def text : CheckKind → String
  | .composeLogs => "compose-logs"
  | .logs => "logs"
  | .traces => "traces"
  | .metrics => "metrics"
  | .profiles => "profiles"
  | .custom => "custom-checks"

def ofText? (s : String) : Option CheckKind := all.find? fun k => k.text == s

end CheckKind

inductive Check
  | composeLogs (message : String)
  | logs (expected : ExpectedLogs)
  | traces (expected : ExpectedTraces)
  | metrics (expected : ExpectedMetrics)
  | profiles (expected : ExpectedProfiles)
  | custom (expected : CustomCheck)
  deriving Repr, DecidableEq

namespace Check

def kind : Check → CheckKind
  | .composeLogs _ => .composeLogs
  | .logs _ => .logs
  | .traces _ => .traces
  | .metrics _ => .metrics
  | .profiles _ => .profiles
  | .custom _ => .custom

/-- What the check waits for, as messages put it. -/
def description : Check → String
  | .composeLogs message => "compose logs containing " ++ Text.quoted message
  | .logs e =>
    if e.signal.expectAbsent then "no logs for " ++ Text.quoted e.logql
    else "logs matching " ++ e.signal.describeName
  | .traces e =>
    if e.signal.expectAbsent then "no spans for " ++ Text.quoted e.traceql
    else "spans matching " ++ e.signal.describeName
  | .metrics e => "metric " ++ Text.quoted e.promql ++ " " ++ e.value
  | .profiles e =>
    "profile with flamebearer " ++
      match given? e.flamebearers.equals with
      | some name => Text.quoted name
      | none => e.flamebearers.regexp.getD "None"
  | .custom e => "custom check " ++ e.script

/-- The query, the script or the text that the check asks for. -/
def query : Check → String
  | .composeLogs message => message
  | .logs e => e.logql
  | .traces e => e.traceql
  | .metrics e => Promql.replaceVariables e.promql
  | .profiles e => e.query
  | .custom e => e.script

def absent : Check → Bool
  | .logs e => e.signal.expectAbsent
  | .traces e => e.signal.expectAbsent
  | _ => false

/-- The variant of the matrix that the check is for, if it is for one alone. -/
def condition : Check → Option String
  | .composeLogs _ => none
  | .logs e => e.signal.matrixCondition
  | .traces e => e.signal.matrixCondition
  | .metrics e => e.matrixCondition
  | .profiles e => e.matrixCondition
  | .custom e => e.matrixCondition

end Check

/-- The checks of one kind, in the order of the definition. -/
def Expected.checks (e : Expected) : CheckKind → List Check
  | .composeLogs => e.composeLogs.map .composeLogs
  | .logs => e.logs.map .logs
  | .traces => e.traces.map .traces
  | .metrics => e.metrics.map .metrics
  | .profiles => e.profiles.map .profiles
  | .custom => e.customChecks.map .custom

/-- All checks, kind by kind. -/
def Expected.checksIn (e : Expected) (order : List CheckKind) : List Check := order.flatMap e.checks

/-! Judging answers. A mismatch is reported with the query and the answer. -/

namespace Judge

/-- Puts the query and the answer in the place of those of a mismatch. -/
def withContext {α : Type} (query : String) (response : Option Body) :
    Except Failure α → Except Failure α
  | .error (.retryable ⟨.mismatch, message, _, _⟩) =>
    .error (.mismatch message (some query) response)
  | result => result

def composeLogs (message : String) (found : Bool) : Except Failure Unit :=
  if found then .ok ()
  else
    .error (.mismatch ("compose logs do not contain " ++ Text.quoted message) (some message) none)

def logs (e : ExpectedLogs) (body : Body) : Except Failure Unit := do
  let records ← Response.logLines body (some e.logql)
  discard <| withContext e.logql (some body) (matchSignal e.signal records)

/-- Answers one after the other, with line feeds between them. -/
def joined : List Body → Except Fault Body
  | [] => .ok (.bytes [])
  | body :: rest => (go 0 (body :: rest)).map .bytes
where
  go (index : Nat) : List Body → Except Fault (List UInt8)
    | [] => .ok []
    | [.bytes b] => .ok b
    | .bytes b :: rest => (go (index + 1) rest).map fun more => b ++ 10 :: more
    | .text _ :: _ => .error (.notJoinable index)

/-- Judges the spans of all traces that a search found. -/
def traces (e : ExpectedTraces) (bodies : List Body) (spans : List Record) :
    Except Failure Unit :=
  match matchSignal e.signal spans with
  | .ok _ => .ok ()
  | .error (.retryable ⟨.mismatch, message, _, _⟩) =>
    match joined bodies with
    | .ok body => .error (.mismatch message (some e.traceql) (some body))
    | .error f => .error (.fault f)
  | .error f => .error f

def metrics (e : ExpectedMetrics) (body : Body) : Except Failure Unit := do
  let query := Promql.replaceVariables e.promql
  match ← Response.metricValues body (some query) with
  | [value] => withContext query (some body) (compareMetric e.value value)
  | values =>
    throw (.mismatch ("expected exactly 1 sample, found " ++ Decimal.natText values.length)
      (some query) (some body))

def profiles (e : ExpectedProfiles) (body : Body) : Except Failure Unit := do
  let names ← Response.flamebearerNames body (some e.query)
  discard <| withContext e.query (some body)
    (matchName e.flamebearers.equals e.flamebearers.regexp names)

end Judge
end TelemetryCheck
