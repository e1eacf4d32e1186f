import TelemetryCheck.AnyValue
import TelemetryCheck.Matching
import TelemetryCheck.Response.Decoding

/-!
# Traces

The answer to a trace search lists traces; the answer for one trace holds its spans, below scopes,
below resources. A span has the attributes of all three, its own first.
-/

namespace TelemetryCheck
namespace Response

open Json (Value)
open Conversion (Converted)
open Conversion.Converted

structure TraceSummary where
  id : String
  serviceName : String
  traceName : String

def traceSummary : Value → Converted TraceSummary :=
  record fun f =>
    TraceSummary.mk <$> field f "traceID" "trace_id" "" text
      <*> field f "rootServiceName" "root_service_name" "" text
      <*> field f "rootTraceName" "root_trace_name" "" text

def traceSearch : Value → Converted (List TraceSummary) :=
  record fun f => field f "traces" "traces" [] (listOf traceSummary)

/-- The ids of the traces that were found; a trace without an id is left out. -/
def traceIds (body : Body) (query : Option String) : Except Failure (List String) :=
  (decode traceSearch body "trace search" query).map fun traces =>
    (traces.map TraceSummary.id).filter fun id => !id.isEmpty

structure Attribute where
  key : String
  value : List (String × Value)

def spanAttribute : Value → Converted Attribute :=
  record fun f =>
    Attribute.mk <$> required f "key" text <*> field f "value" "value" [] (record .ok)

structure Scope where
  name : String := ""
  version : String := ""
  attributes : List Attribute := []

def scope : Value → Converted Scope :=
  record fun f =>
    Scope.mk <$> field f "name" "name" "" text <*> field f "version" "version" "" text
      <*> field f "attributes" "attributes" [] (listOf spanAttribute)

/-- The kind of a span, a word or a number; only its form is looked at. -/
def spanKind : Value → Converted Unit
  | .str _ | .int _ | .bool _ => .ok ()
  | v =>
    let noText : Conversion.Complaint := ⟨[], "Input should be a valid string"⟩
    match v with
    | .float x =>
      match Conversion.floatInteger x with
      | .integer _ => .ok ()
      | .notFinite => .failed [noText, ⟨[], "Input should be a finite number"⟩]
      | .fraction =>
        .failed [noText,
          ⟨[], "Input should be a valid integer, got a number with a fractional part"⟩]
      | .tooLarge =>
        .failed [noText,
          ⟨[], "Unable to parse input string as an integer, exceeded maximum size"⟩]
    | _ => .failed [noText, ⟨[], "Input should be a valid integer"⟩]

structure Span where
  name : String
  attributes : List Attribute

def span : Value → Converted Span :=
  record fun f =>
    (fun name _ _ _ attributes => Span.mk name attributes) <$> field f "name" "name" "" text
      <*> field f "traceId" "trace_id" "" text
      <*> field f "spanId" "span_id" "" text
      <*> field f "kind" "kind" () spanKind
      <*> field f "attributes" "attributes" [] (listOf spanAttribute)

structure ScopeSpans where
  scope : Scope
  spans : List Span

def scopeSpans : Value → Converted ScopeSpans :=
  record fun f =>
    ScopeSpans.mk <$> field f "scope" "scope" {} scope
      <*> field f "spans" "spans" [] (listOf span)

structure ResourceSpans where
  attributes : List Attribute
  scopes : List ScopeSpans

def resource : Value → Converted (List Attribute) :=
  record fun f => field f "attributes" "attributes" [] (listOf spanAttribute)

def resourceSpans : Value → Converted ResourceSpans :=
  record fun f =>
    ResourceSpans.mk <$> field f "resource" "resource" [] resource
      <*> field f "scopeSpans" "scope_spans" [] (listOf scopeSpans)

/-- Both layouts of a trace, the older one first. -/
def traceDetails : Value → Converted (List ResourceSpans) :=
  record fun f =>
    (· ++ ·) <$> field f "batches" "batches" [] (listOf resourceSpans)
      <*> field f "resourceSpans" "resource_spans" [] (listOf resourceSpans)

/-- Puts entries over others: a key that is there keeps its place. -/
def overlay (base upper : List (String × String)) : List (String × String) :=
  upper.foldl (fun done p => Json.setField p.1 p.2 done) base

/-- The attributes as texts; the last of two with one key counts. -/
def attributeTexts (attributes : List Attribute) : Except Fault (List (String × String)) := do
  let entries ← attributes.mapM fun a => do return (a.key, ← AnyValue.text (.obj a.value))
  return overlay [] entries

/-- The attributes of a scope, with its name and version among them. -/
def scopeTexts (s : Scope) : Except Fault (List (String × String)) := do
  let own ← attributeTexts s.attributes
  return overlay own [("otel.library.name", s.name), ("otel.library.version", s.version)]

def spanRecord (resource scope : List (String × String)) (s : Span) : Except Fault Record := do
  let own ← attributeTexts s.attributes
  return ⟨s.name, overlay (overlay resource scope) own⟩

def scopeRecords (resource : List (String × String)) (s : ScopeSpans) :
    Except Fault (List Record) := do
  let scope ← scopeTexts s.scope
  s.spans.mapM (spanRecord resource scope)

def resourceRecords (r : ResourceSpans) : Except Fault (List Record) := do
  let resource ← attributeTexts r.attributes
  return (← r.scopes.mapM (scopeRecords resource)).flatten

/-- Faults that a malformed attribute is expected to lead to. -/
def isMalformedAttribute (f : Fault) : Bool :=
  ["AttributeError", "KeyError", "TypeError", "ValueError"].contains f.kindName

/-- One record for each span, in the order of the answer. -/
def traceSpans (body : Body) (query : Option String) : Except Failure (List Record) := do
  let details ← decode traceDetails body "trace" query
  match details.mapM resourceRecords with
  | .ok records => return records.flatten
  | .error f =>
    if isMalformedAttribute f then
      throw (.transient ("malformed span attribute in trace response: " ++ f.shown) query
        (some body))
    else throw (.fault f)

end Response
end TelemetryCheck
