import TelemetryCheck.Proofs.Response.AttributeFaults
import TelemetryCheck.Response.Logs
import TelemetryCheck.Response.Metrics
import TelemetryCheck.Response.Profiles

/-!
# Answers that cannot be decoded

A backend may answer anything.  Whatever it is, reading it comes to records or to a failure that is
tried again, with the query and the answer at hand for a report.  Spans are the exception.  The
first of their attributes that has no text decides, and if a number overflows in it the reading ends
with a fault, which is not tried again.
-/

namespace TelemetryCheck
namespace Response

variable {α β : Type} {body : Body} {query : Option String}

/-- A result, or a failure that is tried again and that carries the query and the answer. -/
def ReadOrRetried (body : Body) (query : Option String) : Except Failure α → Prop
  | .ok _ => True
  | .error f => ∃ message, f = .transient message query (some body)

namespace ReadOrRetried

theorem bind {x : Except Failure α} {next : α → Except Failure β} (hx : ReadOrRetried body query x)
    (hnext : ∀ a, ReadOrRetried body query (next a)) : ReadOrRetried body query (x >>= next) := by
  cases x with
  | ok a => exact hnext a
  | error f => exact hx

theorem map {x : Except Failure α} (hx : ReadOrRetried body query x) (f : α → β) :
    ReadOrRetried body query (x.map f) := by
  cases x with
  | ok a => exact trivial
  | error g => exact hx

theorem mapM {f : α → Except Failure β} (hf : ∀ a, ReadOrRetried body query (f a)) (xs : List α) :
    ReadOrRetried body query (xs.mapM f) := by
  induction xs with
  | nil => exact trivial
  | cons x rest ih =>
    rw [List.mapM_cons]
    exact (hf x).bind fun _ => ih.bind fun _ => trivial

end ReadOrRetried

/-! ## Decoding -/

theorem decode_readOrRetried (decoder : Json.Value → Conversion.Converted α) (body : Body)
    (what : String) (query : Option String) :
    ReadOrRetried body query (decode decoder body what query) := by
  unfold decode
  split
  · exact ⟨_, rfl⟩
  · split
    · exact trivial
    · exact ⟨_, rfl⟩

theorem logLines_readOrRetried (body : Body) (query : Option String) :
    ReadOrRetried body query (logLines body query) := by
  refine (decode_readOrRetried logAnswer body "log query" query).bind fun answer => ?_
  dsimp only
  split
  · exact ⟨_, rfl⟩
  · exact trivial

theorem traceIds_readOrRetried (body : Body) (query : Option String) :
    ReadOrRetried body query (traceIds body query) :=
  (decode_readOrRetried traceSearch body "trace search" query).map _

theorem sampleValue_readOrRetried (body : Body) (query : Option String) (s : Sample) :
    ReadOrRetried body query (sampleValue body query s) := by
  unfold sampleValue
  split
  · exact trivial
  · split
    · exact trivial
    · exact ⟨_, rfl⟩
  · exact ⟨_, rfl⟩

theorem metricValues_readOrRetried (body : Body) (query : Option String) :
    ReadOrRetried body query (metricValues body query) := by
  refine (decode_readOrRetried metricAnswer body "metric query" query).bind fun answer => ?_
  dsimp only
  split
  · exact ⟨_, rfl⟩
  · exact .mapM (sampleValue_readOrRetried body query) answer.samples

theorem flamebearerNames_readOrRetried (body : Body) (query : Option String) :
    ReadOrRetried body query (flamebearerNames body query) :=
  decode_readOrRetried profileAnswer body "profile query" query

/-! ## Spans -/

/-- The attributes below a scope in the order in which they are read: its own, then those of its
spans. -/
def ScopeSpans.allAttributes (s : ScopeSpans) : List Attribute :=
  s.scope.attributes ++ s.spans.flatMap Span.attributes

def ResourceSpans.allAttributes (r : ResourceSpans) : List Attribute :=
  r.attributes ++ r.scopes.flatMap ScopeSpans.allAttributes

def Attribute.fault? (a : Attribute) : Option Fault := failure? (AnyValue.text (.obj a.value))

/-- The fault of the first attribute of a trace that has no text. -/
def firstFault (details : List ResourceSpans) : Option Fault :=
  (details.flatMap ResourceSpans.allAttributes).findSome? Attribute.fault?

theorem failure?_attributeTexts (attributes : List Attribute) :
    failure? (attributeTexts attributes) = attributes.findSome? Attribute.fault? := by
  have hentry : ∀ a : Attribute,
      failure?
          (do return (a.key, ← AnyValue.text (.obj a.value)) : Except Fault (String × String)) =
        a.fault? :=
    fun a => failure?_bind_pure (Prod.mk a.key) _
  rw [attributeTexts, failure?_bind_pure, failure?_mapM]
  simp only [hentry]

theorem failure?_scopeTexts (s : Scope) :
    failure? (scopeTexts s) = s.attributes.findSome? Attribute.fault? := by
  rw [scopeTexts, failure?_bind_pure, failure?_attributeTexts]

theorem failure?_spanRecord (resource scope : List (String × String)) (s : Span) :
    failure? (spanRecord resource scope s) = s.attributes.findSome? Attribute.fault? := by
  rw [spanRecord, failure?_bind_pure, failure?_attributeTexts]

theorem failure?_scopeRecords (resource : List (String × String)) (s : ScopeSpans) :
    failure? (scopeRecords resource s) = s.allAttributes.findSome? Attribute.fault? := by
  have hspans : ∀ scope, failure? (s.spans.mapM (spanRecord resource scope)) =
      (s.spans.flatMap Span.attributes).findSome? Attribute.fault? := by
    intro scope
    rw [failure?_mapM, findSome?_flatMap]
    simp only [failure?_spanRecord]
  rw [scopeRecords, failure?_bind hspans, failure?_scopeTexts, ScopeSpans.allAttributes,
    List.findSome?_append]

theorem failure?_resourceRecords (r : ResourceSpans) :
    failure? (resourceRecords r) = r.allAttributes.findSome? Attribute.fault? := by
  have hscopes : ∀ resource,
      failure? (do return (← r.scopes.mapM (scopeRecords resource)).flatten) =
        (r.scopes.flatMap ScopeSpans.allAttributes).findSome? Attribute.fault? := by
    intro resource
    rw [failure?_bind_pure, failure?_mapM, findSome?_flatMap]
    simp only [failure?_scopeRecords]
  rw [resourceRecords, failure?_bind hscopes, failure?_attributeTexts,
    ResourceSpans.allAttributes, List.findSome?_append]

theorem failure?_records (details : List ResourceSpans) :
    failure? (details.mapM resourceRecords) = firstFault details := by
  rw [failure?_mapM, firstFault, findSome?_flatMap]
  simp only [failure?_resourceRecords]

/-- The fault that comes first is of an attribute, and it is one that a malformed attribute is
expected to lead to or comes from a number that overflows there. -/
theorem firstFault_cases {details : List ResourceSpans} {f : Fault}
    (h : firstFault details = some f) :
    isMalformedAttribute f = true ∨
      ∃ a ∈ details.flatMap ResourceSpans.allAttributes, AnyValue.Overflows f (.obj a.value) := by
  obtain ⟨a, ha, hfault⟩ := List.exists_of_findSome?_eq_some h
  have htext := failure?_eq_some.mp hfault
  rcases AnyValue.plain_error (map_eq_error htext) with hf | hover
  · exact .inl hf
  · exact .inr ⟨a, ha, hover⟩

theorem traceSpans_of_decode_error {g : Failure}
    (h : decode traceDetails body "trace" query = .error g) :
    traceSpans body query = .error g := by
  rw [traceSpans, h]
  rfl

/-- What reading spans comes to once the answer is decoded, by the first attribute without a
text. -/
theorem traceSpans_cases {details : List ResourceSpans}
    (h : decode traceDetails body "trace" query = .ok details) :
    (firstFault details = none ∧ ∃ records, traceSpans body query = .ok records) ∨
      ∃ f, firstFault details = some f ∧
        ((isMalformedAttribute f = true ∧
            ∃ message, traceSpans body query = .error (.transient message query (some body))) ∨
          (isMalformedAttribute f = false ∧ traceSpans body query = .error (.fault f))) := by
  rw [← failure?_records, traceSpans, h]
  cases hrecords : details.mapM resourceRecords with
  | ok records => exact .inl ⟨rfl, records.flatten, by simp only [bind, Except.bind, hrecords]; rfl⟩
  | error f =>
    refine .inr ⟨f, rfl, ?_⟩
    cases hf : isMalformedAttribute f with
    | true =>
      refine .inl ⟨rfl, "malformed span attribute in trace response: " ++ f.shown, ?_⟩
      simp only [bind, Except.bind, hrecords, hf, if_true]
      rfl
    | false =>
      refine .inr ⟨rfl, ?_⟩
      simp only [bind, Except.bind, hrecords, hf, Bool.false_eq_true, if_false]
      rfl

/-- Reading spans ends with a fault exactly where the first attribute without a text overflows. -/
theorem traceSpans_eq_fault_iff {f : Fault} :
    traceSpans body query = .error (.fault f) ↔
      ∃ details, decode traceDetails body "trace" query = .ok details ∧
        firstFault details = some f ∧
          ∃ a ∈ details.flatMap ResourceSpans.allAttributes,
            AnyValue.Overflows f (.obj a.value) := by
  constructor
  · intro h
    cases hdecode : decode traceDetails body "trace" query with
    | error g =>
      have hretried := decode_readOrRetried traceDetails body "trace" query
      rw [hdecode] at hretried
      rw [traceSpans_of_decode_error hdecode] at h
      cases h
      obtain ⟨message, hmessage⟩ := hretried
      cases hmessage
    | ok details =>
      -- only the last of the three ways to end is a fault, and there the number is the reason
      rcases traceSpans_cases hdecode with
        ⟨-, records, hok⟩ | ⟨g, hg, ⟨-, message, hretry⟩ | ⟨hover, hfault⟩⟩
      · rw [hok] at h
        cases h
      · rw [hretry] at h
        cases h
      · rw [hfault] at h
        cases h
        rcases firstFault_cases hg with hmalformed | hoverflow
        · rw [hmalformed] at hover
          cases hover
        · exact ⟨details, rfl, hg, hoverflow⟩
  · intro h
    obtain ⟨details, hdecode, hfirst, a, -, hover⟩ := h
    have hkind := hover.not_malformed
    rcases traceSpans_cases hdecode with ⟨hnone, -⟩ | ⟨g, hg, ⟨hmalformed, -⟩ | ⟨-, hfault⟩⟩
    · rw [hnone] at hfirst
      cases hfirst
    · rw [hg] at hfirst
      cases hfirst
      rw [hkind] at hmalformed
      cases hmalformed
    · rw [hg] at hfirst
      cases hfirst
      exact hfault

/-- Whatever a backend answers, reading log lines, trace ids, samples or names comes to a result or
to a failure that is tried again and that carries the query and the answer.  So does reading spans,
except exactly where the first of their attributes that has no text holds, at some depth, a number
that overflows. -/
theorem answers_read_or_retried (body : Body) (query : Option String) :
    ReadOrRetried body query (logLines body query) ∧
      ReadOrRetried body query (traceIds body query) ∧
      ReadOrRetried body query (metricValues body query) ∧
      ReadOrRetried body query (flamebearerNames body query) ∧
      (ReadOrRetried body query (traceSpans body query) ∨
        ∃ f, traceSpans body query = .error (.fault f)) ∧
      ∀ f, traceSpans body query = .error (.fault f) ↔
        ∃ details, decode traceDetails body "trace" query = .ok details ∧
          firstFault details = some f ∧
            ∃ a ∈ details.flatMap ResourceSpans.allAttributes,
              AnyValue.Overflows f (.obj a.value) := by
  refine ⟨logLines_readOrRetried body query, traceIds_readOrRetried body query,
    metricValues_readOrRetried body query, flamebearerNames_readOrRetried body query, ?_,
    fun f => traceSpans_eq_fault_iff⟩
  have hretried := decode_readOrRetried traceDetails body "trace" query
  cases hdecode : decode traceDetails body "trace" query with
  | error g =>
    rw [hdecode] at hretried
    rw [traceSpans_of_decode_error hdecode]
    exact .inl hretried
  | ok details =>
    rcases traceSpans_cases hdecode with ⟨-, records, hok⟩ | ⟨g, -, ⟨-, hretry⟩ | ⟨-, hfault⟩⟩
    · rw [hok]
      exact .inl trivial
    · obtain ⟨message, hretry⟩ := hretry
      rw [hretry]
      exact .inl ⟨message, rfl⟩
    · exact .inr ⟨g, hfault⟩

theorem not_readOrRetried_of_fault {x : Except Failure α} (h : endsWithFault x = true) :
    ¬ReadOrRetried body query x := by
  intro hretried
  cases x with
  | ok a => cases h
  | error f =>
    obtain ⟨message, rfl⟩ := hretried
    cases h

def endlessInteger : Body :=
  .text ("\x7b\"batches\":[\x7b\"resource\":\x7b\"attributes\":" ++
    "[\x7b\"key\":\"a\",\"value\":\x7b\"intValue\":1e999\x7d\x7d]\x7d\x7d]\x7d")

/-- The spans of an answer that cannot be decoded are not always tried again. -/
theorem endless_integer_not_retried :
    ¬ReadOrRetried endlessInteger (some "q") (traceSpans endlessInteger (some "q")) :=
  not_readOrRetried_of_fault (by decide +kernel)

end Response
end TelemetryCheck
