import TelemetryCheck.Conversion
import TelemetryCheck.Failure
import TelemetryCheck.Json.Reader

/-!
# Decoding answers

The answer of a backend is one JSON value. The fields that are needed must have the right kind;
other fields do not matter. What cannot be decoded is tried again, since the backend may not be
ready.
-/

namespace TelemetryCheck
namespace Response

open Json (Value)
open Conversion (Converted)
open Conversion.Converted

def text : Value → Converted String
  | .str s => .ok s
  | _ => refuse "Input should be a valid string"

def anything : Value → Converted Value := .ok

def listOf {α : Type} (decode : Value → Converted α) : Value → Converted (List α)
  | .arr items => allOf (items.mapIdx fun i item => (decode item).under (toString i))
  | _ => refuse "Input should be a valid array"

def record {α : Type} (decode : List (String × Value) → Converted α) : Value → Converted α
  | .obj fields => decode fields
  | _ => refuse "Input should be an object"

def texts : Value → Converted (List (String × String)) :=
  record fun fields =>
    allOf (fields.map fun (key, value) => ((text value).map (Prod.mk key)).under key)

/-- A field under one of its two names; the first counts before the second. -/
def field {α : Type} (fields : List (String × Value)) (first second : String) (absent : α)
    (decode : Value → Converted α) : Converted α :=
  match Json.field? first fields with
  | some v => (decode v).under first
  | none =>
    match Json.field? second fields with
    | some v => (decode v).under second
    | none => .ok absent

def required {α : Type} (fields : List (String × Value)) (name : String)
    (decode : Value → Converted α) : Converted α :=
  match Json.field? name fields with
  | some v => (decode v).under name
  | none => .failed [⟨[name], "Field required"⟩]

def json (body : Body) : Option Value :=
  match body with
  | .bytes b => Json.readBytes? b
  | .text s => Json.read? s.toList

def decodeValue {α : Type} (decode : Value → Converted α) (body : Body) : Converted α :=
  match json body with
  | some v => decode v
  | none => refuse "Invalid JSON"

/-- Decodes an answer; `what` names it in messages. -/
def decode {α : Type} (decoder : Value → Converted α) (body : Body) (what : String)
    (query : Option String) : Except Failure α :=
  if body.isEmpty then .error (.transient ("empty " ++ what ++ " response") query (some body))
  else
    match decodeValue decoder body with
    | .ok a => .ok a
    | .failed complaints =>
      .error (.transient ("cannot decode " ++ what ++ " response: " ++
        Decimal.natText complaints.length ++ " error(s), first: " ++
        (complaints.head?.elim "" fun c => c.message)) query (some body))

def unsuccessful (what status : String) (query : Option String) (body : Body) : Failure :=
  .transient (what ++ " status is " ++ Text.quoted status ++ ", expected 'success'") query
    (some body)

end Response
end TelemetryCheck
