import TelemetryCheck.Definition
import TelemetryCheck.Failure
import TelemetryCheck.Json.Value

/-!
# Journal

What a run tells about itself: events in order, and the spans of time that its parts took.
-/

namespace TelemetryCheck

open Json (Value)

inductive Level
  | debug | info | warning | error | critical
  deriving Repr, DecidableEq

namespace Level

def number : Level → Nat
  | .debug => 10
  | .info => 20
  | .warning => 30
  | .error => 40
  | .critical => 50

def text : Level → String
  | .debug => "debug"
  | .info => "info"
  | .warning => "warning"
  | .error => "error"
  | .critical => "critical"

/-- The least number that a threshold by this name lets through. -/
def threshold? (name : String) : Option Nat :=
  match upperText name with
  | "CRITICAL" | "FATAL" => some 50
  | "ERROR" => some 40
  | "WARNING" | "WARN" => some 30
  | "INFO" => some 20
  | "DEBUG" => some 10
  | "NOTSET" => some 0
  | _ => none

end Level

structure Event where
  level : Level
  name : String
  fields : List (String × Value) := []

/-- The span that is active when an event is logged; an id of zero means none. -/
structure SpanContext where
  traceId : Nat := 0
  spanId : Nat := 0

namespace SpanContext

def fields (c : SpanContext) : List (String × Value) :=
  if c.traceId = 0 ∨ c.spanId = 0 then []
  else
    [("trace_id", .str (String.ofList (Text.hexDigits 32 c.traceId))),
      ("span_id", .str (String.ofList (Text.hexDigits 16 c.spanId)))]

end SpanContext

/-- The record that a log line holds. -/
def Event.record (context : SpanContext) (e : Event) : Value :=
  .obj (e.fields ++ [("event", .str e.name), ("level", .str e.level.text)] ++ context.fields)

/-- The events that reach a threshold, as log lines hold them. -/
def emitted (threshold : String) (context : SpanContext) (events : List Event) :
    Except Fault (List Value) :=
  match Level.threshold? threshold with
  | none => .error (.unknownLevel threshold)
  | some least =>
    .ok ((events.filter fun e => least ≤ e.level.number).map (Event.record context))

/-- A part of a run. Its status is the name of a code and a description. -/
structure Span where
  name : String
  attributes : List (String × Value) := []
  status : Option (String × String) := none

structure Journal where
  events : Array Event := #[]
  /-- In the order in which they began. -/
  spans : Array Span := #[]

namespace Journal

def log (j : Journal) (e : Event) : Journal := { j with events := j.events.push e }

def begin (j : Journal) (s : Span) : Journal := { j with spans := j.spans.push s }

def amend (j : Journal) (index : Nat) (change : Span → Span) : Journal :=
  { j with spans := j.spans.modify index change }

end Journal

namespace Span

def setAttribute (key : String) (value : Value) (s : Span) : Span :=
  { s with attributes := Json.setField key value s.attributes }

def setError (description : String) (s : Span) : Span :=
  { s with status := some ("ERROR", description) }

end Span
end TelemetryCheck
