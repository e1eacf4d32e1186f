import TelemetryCheck.Proofs.Conversion.Converted
import TelemetryCheck.Proofs.Json.Fields
import TelemetryCheck.Proofs.Response.Retrying
import TelemetryCheck.Proofs.Response.WellFormed

/-!
# Records of spans

The answer for a trace holds spans below scopes below resources, in two layouts.  Every span becomes
one record, in the order of the answer.  The record has the attributes of the span, of its scope and
of its resource, and the name and the version of the scope.  Where keys clash, the span goes before
the name and the version, these go before the other attributes of the scope, and the resource comes
last; in one list of attributes the last one counts.
-/

namespace TelemetryCheck
namespace Response

open Json (Value)

/-! ## Spans in their places -/

structure PlacedSpan where
  resource : List Attribute
  scope : Scope
  span : Span

def ScopeSpans.placed (resource : List Attribute) (s : ScopeSpans) : List PlacedSpan :=
  s.spans.map (PlacedSpan.mk resource s.scope)

def ResourceSpans.placed (r : ResourceSpans) : List PlacedSpan :=
  r.scopes.flatMap (ScopeSpans.placed r.attributes)

def placedSpans (details : List ResourceSpans) : List PlacedSpan :=
  details.flatMap ResourceSpans.placed

/-- A span of an answer as it stands there, with what it stands below. -/
structure RawSpan where
  resource : Value
  scope : Value
  span : Value

/-- The items below one of two names; the first counts before the second. -/
def itemsAt (first second : String) : Value → List Value
  | .obj fields =>
    match (Json.field? first fields).or (Json.field? second fields) with
    | some (.arr items) => items
    | _ => []
  | _ => []

/-- The spans of an answer, the older layout first. -/
def rawSpans (answer : Value) : List RawSpan :=
  (itemsAt "batches" "batches" answer ++
      itemsAt "resourceSpans" "resource_spans" answer).flatMap fun resource =>
    (itemsAt "scopeSpans" "scope_spans" resource).flatMap fun scope =>
      (itemsAt "spans" "spans" scope).map (RawSpan.mk resource scope)

structure RawSpan.Reads (raw : RawSpan) (x : PlacedSpan) : Prop where
  resource : ∃ r, resourceSpans raw.resource = .ok r ∧ r.attributes = x.resource
  scope : ∃ s, scopeSpans raw.scope = .ok s ∧ s.scope = x.scope
  span : Response.span raw.span = .ok x.span

/-! ## Attributes with their precedence -/

def Attribute.text (a : Attribute) : Except Fault String := AnyValue.text (.obj a.value)

def lastText (key : String) (attributes : List Attribute) : Option (Except Fault String) :=
  (attributes.filter fun a => a.key = key).getLast?.map Attribute.text

/-- What a scope has besides its attributes, under the keys that it has among them. -/
def Scope.library (s : Scope) : List (String × String) :=
  [("otel.library.name", s.name), ("otel.library.version", s.version)]

namespace PlacedSpan

def keys (x : PlacedSpan) : List String :=
  (x.span.attributes ++ x.scope.attributes ++ x.resource).map Attribute.key ++
    x.scope.library.map (·.1)

/-- The text for a key, from the first of the four places that has one. -/
def text (x : PlacedSpan) (key : String) : Option (Except Fault String) :=
  (lastText key x.span.attributes).or <|
    ((Json.field? key x.scope.library).map .ok).or <|
      (lastText key x.scope.attributes).or (lastText key x.resource)

/-- A record has the name of a span, has each of its keys once and no other, and has the text for
each. -/
structure Merged (x : PlacedSpan) (r : Record) : Prop where
  name : r.name = x.span.name
  once : (r.attributes.map (·.1)).Nodup
  keys : ∀ key, key ∈ r.attributes.map (·.1) ↔ key ∈ x.keys
  text : ∀ key, (Json.field? key r.attributes).map .ok = x.text key

end PlacedSpan

/-! ## Reading the answer -/

section Reading

open Conversion.Converted

variable {α : Type} {decoder : Value → Conversion.Converted α}
  {fields : List (String × Value)} {first second : String} {xs : List α} {v : Value}

theorem forall₂_of_listOf (h : listOf decoder v = .ok xs) :
    ∃ items, v = .arr items ∧ List.Forall₂ (fun item x => decoder item = .ok x) items xs := by
  cases v with
  | arr items => exact ⟨items, rfl, forall₂_of_allOf h⟩
  | null | bool b | int i | float x | str s | obj fields => cases h

theorem forall₂_of_field (h : field fields first second [] (listOf decoder) = .ok xs) :
    List.Forall₂ (fun item x => decoder item = .ok x) (itemsAt first second (.obj fields)) xs := by
  unfold field at h
  cases hfirst : Json.field? first fields with
  | some v =>
    rw [hfirst] at h
    obtain ⟨items, rfl, hitems⟩ := forall₂_of_listOf (under_eq_ok.mp h)
    simpa only [itemsAt, hfirst, Option.some_or] using hitems
  | none =>
    rw [hfirst] at h
    cases hsecond : Json.field? second fields with
    | some v =>
      rw [hsecond] at h
      obtain ⟨items, rfl, hitems⟩ := forall₂_of_listOf (under_eq_ok.mp h)
      simpa only [itemsAt, hfirst, hsecond, Option.none_or] using hitems
    | none =>
      rw [hsecond] at h
      cases h
      simp only [itemsAt, hfirst, hsecond, Option.none_or]
      exact .nil

theorem obj_of_record {build : List (String × Value) → Conversion.Converted α} {x : α}
    (h : record build v = .ok x) : ∃ fields, v = .obj fields ∧ build fields = .ok x := by
  cases v with
  | obj fields => exact ⟨fields, rfl, h⟩
  | null | bool b | int i | float x | str s | arr items => cases h

theorem forall₂_of_scopeSpans {s : ScopeSpans} (h : scopeSpans v = .ok s) :
    List.Forall₂ (fun item x => span item = .ok x) (itemsAt "spans" "spans" v) s.spans := by
  obtain ⟨fields, rfl, hfields⟩ := obj_of_record h
  obtain ⟨build, spans, hbuild, hspans, rfl⟩ := ap_eq_ok.mp hfields
  obtain ⟨scope, -, rfl⟩ := map_eq_ok.mp hbuild
  exact forall₂_of_field hspans

theorem forall₂_of_resourceSpans {r : ResourceSpans} (h : resourceSpans v = .ok r) :
    List.Forall₂ (fun item s => scopeSpans item = .ok s) (itemsAt "scopeSpans" "scope_spans" v)
      r.scopes := by
  obtain ⟨fields, rfl, hfields⟩ := obj_of_record h
  obtain ⟨build, scopes, hbuild, hscopes, rfl⟩ := ap_eq_ok.mp hfields
  obtain ⟨attributes, -, rfl⟩ := map_eq_ok.mp hbuild
  exact forall₂_of_field hscopes

theorem forall₂_of_traceDetails {details : List ResourceSpans} (h : traceDetails v = .ok details) :
    List.Forall₂ (fun item r => resourceSpans item = .ok r)
      (itemsAt "batches" "batches" v ++ itemsAt "resourceSpans" "resource_spans" v) details := by
  obtain ⟨fields, rfl, hfields⟩ := obj_of_record h
  obtain ⟨build, later, hbuild, hlater, rfl⟩ := ap_eq_ok.mp hfields
  obtain ⟨batches, hbatches, rfl⟩ := map_eq_ok.mp hbuild
  exact List.rel_append (forall₂_of_field hbatches) (forall₂_of_field hlater)

/-- The spans that are decoded are those of the answer, all of them and in order. -/
theorem rawSpans_read {details : List ResourceSpans} (h : traceDetails v = .ok details) :
    List.Forall₂ RawSpan.Reads (rawSpans v) (placedSpans details) := by
  refine List.rel_flatMap (forall₂_of_traceDetails h) fun resource r hr => ?_
  refine List.rel_flatMap (forall₂_of_resourceSpans hr) fun scope s hs => ?_
  refine List.rel_map (fun raw x hx => ?_) (forall₂_of_scopeSpans hs)
  exact ⟨⟨r, hr, rfl⟩, ⟨s, hs, rfl⟩, hx⟩

theorem exists_json_of_decode {body : Body} {what : String} {query : Option String} {x : α}
    (h : decode decoder body what query = .ok x) : ∃ v, json body = some v ∧ decoder v = .ok x := by
  unfold decode at h
  split at h
  · cases h
  · split at h
    · rename_i a hdecode
      cases h
      unfold decodeValue at hdecode
      split at hdecode
      · exact ⟨_, ‹_›, hdecode⟩
      · cases hdecode
    · cases h

end Reading

/-! ## Putting attributes together -/

def Attribute.shown (a : Attribute) : String := a.text.toOption.getD ""

def shownTexts (attributes : List Attribute) : List (String × String) :=
  overlay [] (attributes.map fun a => (a.key, a.shown))

def Scope.shownTexts (s : Scope) : List (String × String) :=
  overlay (Response.shownTexts s.attributes) s.library

def PlacedSpan.record (x : PlacedSpan) : Record :=
  ⟨x.span.name, overlay (overlay (shownTexts x.resource) x.scope.shownTexts)
    (shownTexts x.span.attributes)⟩

def AllShown (attributes : List Attribute) : Prop := ∀ a ∈ attributes, a.text = .ok a.shown

section Merging

variable {attributes more resource : List Attribute} {s : ScopeSpans} {r : ResourceSpans}
  {details : List ResourceSpans}

theorem allShown_append : AllShown (attributes ++ more) ↔ AllShown attributes ∧ AllShown more :=
  List.forall_mem_append

theorem attributeTexts_eq (h : AllShown attributes) :
    attributeTexts attributes = .ok (shownTexts attributes) := by
  have hentries : attributes.mapM (fun a => do return (a.key, ← AnyValue.text (.obj a.value))) =
      (.ok (attributes.map fun a => (a.key, a.shown)) : Except Fault _) := by
    refine mapM_eq_ok fun a ha => ?_
    rw [show AnyValue.text (.obj a.value) = .ok a.shown from h a ha]
    rfl
  rw [attributeTexts, hentries]
  rfl

theorem scopeTexts_eq {scope : Scope} (h : AllShown scope.attributes) :
    scopeTexts scope = .ok scope.shownTexts := by
  rw [scopeTexts, attributeTexts_eq h]
  rfl

theorem scopeRecords_eq (h : AllShown s.allAttributes) :
    scopeRecords (shownTexts resource) s = .ok ((s.placed resource).map PlacedSpan.record) := by
  obtain ⟨hscope, hspans⟩ := allShown_append.mp h
  rw [scopeRecords, scopeTexts_eq hscope, ScopeSpans.placed, List.map_map]
  refine mapM_eq_ok fun x hx => ?_
  have hown : AllShown x.attributes := fun a ha =>
    hspans a (List.mem_flatMap_of_mem hx ha)
  rw [spanRecord, attributeTexts_eq hown]
  rfl

theorem resourceRecords_eq (h : AllShown r.allAttributes) :
    resourceRecords r = .ok (r.placed.map PlacedSpan.record) := by
  obtain ⟨hresource, hscopes⟩ := allShown_append.mp h
  have hrecords : r.scopes.mapM (scopeRecords (shownTexts r.attributes)) =
      .ok (r.scopes.map fun s => (s.placed r.attributes).map PlacedSpan.record) :=
    mapM_eq_ok fun s hs => scopeRecords_eq fun a ha => hscopes a (List.mem_flatMap_of_mem hs ha)
  rw [resourceRecords, attributeTexts_eq hresource, ResourceSpans.placed, List.map_flatMap,
    List.flatMap_def]
  show (r.scopes.mapM (scopeRecords (shownTexts r.attributes)) >>= _) = _
  rw [hrecords]
  rfl

theorem traceSpans_eq {body : Body} {query : Option String}
    (hdecode : decode traceDetails body "trace" query = .ok details)
    (h : AllShown (details.flatMap ResourceSpans.allAttributes)) :
    traceSpans body query = .ok ((placedSpans details).map PlacedSpan.record) := by
  have hrecords : details.mapM resourceRecords =
      .ok (details.map fun r => r.placed.map PlacedSpan.record) :=
    mapM_eq_ok fun r hr => resourceRecords_eq fun a ha => h a (List.mem_flatMap_of_mem hr ha)
  rw [traceSpans, hdecode, placedSpans, List.map_flatMap, List.flatMap_def]
  simp only [bind, Except.bind, hrecords]
  rfl

end Merging

/-! ## Looking attributes up -/

section Lookup

variable {key : String} {attributes : List Attribute} {base upper : List (String × String)}

theorem field?_overlay (h : (upper.map (·.1)).Nodup) :
    Json.field? key (overlay base upper) = (Json.field? key upper).or (Json.field? key base) := by
  rw [overlay, Json.field?_foldl_setField, Json.last?_eq_field? h]

theorem nodup_shownTexts (attributes : List Attribute) :
    ((shownTexts attributes).map (·.1)).Nodup :=
  Json.nodup_foldl_setField List.nodup_nil

theorem Scope.nodup_shownTexts (s : Scope) : (s.shownTexts.map (·.1)).Nodup :=
  Json.nodup_foldl_setField (Response.nodup_shownTexts s.attributes)

/-- Among the texts of attributes the last one with a key is found. -/
theorem field?_shownTexts (h : AllShown attributes) :
    (Json.field? key (shownTexts attributes)).map .ok = lastText key attributes := by
  have hlast : Json.last? key (attributes.map fun a => (a.key, a.shown)) =
      (attributes.filter fun a => a.key = key).getLast?.map Attribute.shown := by
    rw [Json.last?, List.filter_map, List.getLast?_map, Option.map_map]
    rfl
  rw [shownTexts, overlay, Json.field?_foldl_setField, hlast, Json.field?, Option.or_none,
    Option.map_map, lastText]
  refine Option.map_congr fun a ha => ?_
  exact (h a (List.mem_filter.mp (List.mem_of_getLast? ha)).1).symm

theorem Scope.nodup_library (s : Scope) : (s.library.map (·.1)).Nodup := by
  show ["otel.library.name", "otel.library.version"].Nodup
  decide

/-- A scope has its name and version before its attributes. -/
theorem Scope.field?_shownTexts {s : Scope} (h : AllShown s.attributes) :
    (Json.field? key s.shownTexts).map .ok =
      ((Json.field? key s.library).map .ok).or (lastText key s.attributes) := by
  rw [shownTexts, field?_overlay s.nodup_library, Option.map_or, Response.field?_shownTexts h]

theorem isSome_lastText : (lastText key attributes).isSome ↔ key ∈ attributes.map Attribute.key := by
  rw [lastText, Option.isSome_map, List.getLast?_isSome, Ne, List.filter_eq_nil_iff, List.mem_map]
  simp

namespace PlacedSpan

variable {x : PlacedSpan}

theorem field?_record (hresource : AllShown x.resource) (hscope : AllShown x.scope.attributes)
    (hspan : AllShown x.span.attributes) :
    (Json.field? key x.record.attributes).map .ok = x.text key := by
  rw [record, field?_overlay (nodup_shownTexts x.span.attributes),
    field?_overlay x.scope.nodup_shownTexts, Option.map_or, Option.map_or, text,
    field?_shownTexts hspan, Scope.field?_shownTexts hscope, field?_shownTexts hresource,
    Option.or_assoc]

theorem isSome_text : (x.text key).isSome ↔ key ∈ x.keys := by
  simp only [text, keys, Option.isSome_or, Option.isSome_map, Bool.or_eq_true, isSome_lastText,
    Json.isSome_field?_iff, List.map_append, List.mem_append]
  tauto

/-- The record of a span is what its attributes and those around it make together. -/
theorem record_merged (hresource : AllShown x.resource) (hscope : AllShown x.scope.attributes)
    (hspan : AllShown x.span.attributes) : x.Merged x.record where
  name := rfl
  once := Json.nodup_foldl_setField (Json.nodup_foldl_setField (nodup_shownTexts x.resource))
  keys key := by
    rw [← Json.isSome_field?_iff, ← isSome_text, ← field?_record hresource hscope hspan,
      Option.isSome_map]
  text _ := field?_record hresource hscope hspan

end PlacedSpan

end Lookup

/-! ## All spans of an answer -/

theorem Attribute.text_of_wellFormed {a : Attribute} (h : AnyValue.WellFormed (.obj a.value)) :
    a.text = .ok a.shown := by
  obtain ⟨s, hs⟩ := h.exists_text
  rw [shown, text, hs]
  rfl

theorem attributes_of_mem_placedSpans {details : List ResourceSpans} {x : PlacedSpan}
    (hx : x ∈ placedSpans details) {a : Attribute}
    (ha : a ∈ x.resource ++ (x.scope.attributes ++ x.span.attributes)) :
    a ∈ details.flatMap ResourceSpans.allAttributes := by
  obtain ⟨r, hr, hx⟩ := List.mem_flatMap.mp hx
  obtain ⟨s, hs, hx⟩ := List.mem_flatMap.mp hx
  obtain ⟨span, hspan, rfl⟩ := List.mem_map.mp hx
  refine List.mem_flatMap_of_mem hr ?_
  rcases List.mem_append.mp ha with ha | ha
  · exact List.mem_append_left _ ha
  refine List.mem_append_right _ (List.mem_flatMap_of_mem hs ?_)
  rcases List.mem_append.mp ha with ha | ha
  · exact List.mem_append_left _ ha
  · exact List.mem_append_right _ (List.mem_flatMap_of_mem hspan ha)

/-- Where the attributes of an answer are well-formed, reading its spans comes to one record for
each of them, in the order of the answer, with the name of the span and with the attributes of the
span, of its scope and of its resource in their precedence. -/
theorem traceSpans_of_wellFormed {body : Body} {query : Option String}
    {details : List ResourceSpans} (hdecode : decode traceDetails body "trace" query = .ok details)
    (hvalues : ∀ a ∈ details.flatMap ResourceSpans.allAttributes,
      AnyValue.WellFormed (.obj a.value)) :
    ∃ answer records, json body = some answer ∧ traceSpans body query = .ok records ∧
      List.Forall₂ RawSpan.Reads (rawSpans answer) (placedSpans details) ∧
        List.Forall₂ PlacedSpan.Merged (placedSpans details) records := by
  have hshown : AllShown (details.flatMap ResourceSpans.allAttributes) := fun a ha =>
    Attribute.text_of_wellFormed (hvalues a ha)
  obtain ⟨answer, hanswer, htrace⟩ := exists_json_of_decode hdecode
  refine ⟨answer, _, hanswer, traceSpans_eq hdecode hshown, rawSpans_read htrace, ?_⟩
  rw [List.forall₂_map_right_iff, List.forall₂_same]
  intro x hx
  have hplaced : AllShown (x.resource ++ (x.scope.attributes ++ x.span.attributes)) := fun a ha =>
    hshown a (attributes_of_mem_placedSpans hx ha)
  obtain ⟨hresource, hbelow⟩ := allShown_append.mp hplaced
  obtain ⟨hscope, hspan⟩ := allShown_append.mp hbelow
  exact PlacedSpan.record_merged hresource hscope hspan

/-! ## A trace with clashes -/

namespace Sample

def ascii (s : String) : List UInt8 := s.toList.map fun c => UInt8.ofNat c.toNat

def quoted (s : String) : List UInt8 := ascii "\"" ++ ascii s ++ ascii "\""

def listed (items : List (List UInt8)) : List UInt8 :=
  ascii "[" ++ (ascii ",").intercalate items ++ ascii "]"

def recorded (fields : List (String × List UInt8)) : List UInt8 :=
  ascii "\x7b" ++ (ascii ",").intercalate (fields.map fun p => quoted p.1 ++ ascii ":" ++ p.2) ++
    ascii "\x7d"

def keyed (key kind : String) (v : List UInt8) : List UInt8 :=
  recorded [("key", quoted key), ("value", recorded [(kind, v)])]

def text (key s : String) : List UInt8 := keyed key "stringValue" (quoted s)

def pair (key : String) : List UInt8 :=
  keyed key "arrayValue" <| recorded [("values",
    listed [recorded [("intValue", quoted "7")], recorded [("boolValue", ascii "true")]])]

/-- A trace in both layouts.  Keys clash within the attributes of its first span and across the
places where attributes stand. -/
def trace : Body :=
  .bytes <| recorded [
    ("batches", listed [recorded [
      ("resource", recorded [("attributes", listed [text "a" "resource", text "b" "resource"])]),
      ("scopeSpans", listed [recorded [
        ("scope", recorded [("name", quoted "lib"), ("attributes",
          listed [text "b" "scope", text "otel.library.name" "scope"])]),
        ("spans", listed [recorded [("name", quoted "first"),
          ("attributes", listed [pair "a", text "a" "span"])]])]])]]),
    ("resourceSpans", listed [recorded [
      ("scopeSpans", listed [recorded [
        ("spans", listed [recorded [("name", quoted "second"),
          ("attributes", listed [pair "otel.library.version"])]])]])]])]

def isTextOrPair : List (String × Value) → Bool
  | [("stringValue", .str _)] => true
  | [("arrayValue", .obj [("values", .arr [.obj [("intValue", .str "7")],
      .obj [("boolValue", .bool _)]])])] => true
  | _ => false

theorem wellFormed_of_isTextOrPair {fields : List (String × Value)}
    (h : isTextOrPair fields = true) : AnyValue.WellFormed (.obj fields) := by
  unfold isTextOrPair at h
  split at h
  · exact .scalar rfl rfl (.string _)
  · refine .array rfl rfl (.inl rfl) ?_
    simp only [List.forall_mem_cons, List.not_mem_nil, false_implies, implies_true, and_true]
    constructor
    · exact .scalar rfl rfl (.integerText
        ⟨by decide, List.all_eq_true.mp (by decide), by decide, by decide, by decide⟩)
    · exact .scalar rfl rfl (.bool _)
  · cases h

/-- The sample has well-formed attributes. -/
theorem trace_wellFormed :
    (decode traceDetails trace "trace" none).toOption.any (fun details =>
      (details.flatMap ResourceSpans.allAttributes).all fun a => isTextOrPair a.value) = true := by
  decide +kernel

end Sample

theorem sample_spans :
    (∃ details answer records, decode traceDetails Sample.trace "trace" none = .ok details ∧
        json Sample.trace = some answer ∧ traceSpans Sample.trace none = .ok records ∧
        List.Forall₂ RawSpan.Reads (rawSpans answer) (placedSpans details) ∧
          List.Forall₂ PlacedSpan.Merged (placedSpans details) records) ∧
      (traceSpans Sample.trace none).toOption = some [
        ⟨"first", [("a", "span"), ("b", "scope"), ("otel.library.name", "lib"),
          ("otel.library.version", "")]⟩,
        ⟨"second", [("otel.library.name", ""), ("otel.library.version", "[7,true]")]⟩] := by
  refine ⟨?_, by decide +kernel⟩
  have hread := Sample.trace_wellFormed
  cases hdecode : decode traceDetails Sample.trace "trace" none with
  | error f =>
    rw [hdecode] at hread
    cases hread
  | ok details =>
    rw [hdecode] at hread
    have hvalues : ∀ a ∈ details.flatMap ResourceSpans.allAttributes,
        AnyValue.WellFormed (.obj a.value) := fun a ha =>
      Sample.wellFormed_of_isTextOrPair (List.all_eq_true.mp hread a ha)
    obtain ⟨answer, records, hall⟩ := traceSpans_of_wellFormed hdecode hvalues
    exact ⟨details, answer, records, rfl, hall⟩

end Response
end TelemetryCheck
