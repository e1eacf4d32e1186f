import TelemetryCheck.Decimal.Numeral
import TelemetryCheck.Response.Decoding

namespace TelemetryCheck
namespace Response

open Json (Value)
open Conversion (Converted)
open Conversion.Converted

inductive SamplePart
  | number (x : Float)
  | text (s : String)

def samplePart : Value → Converted SamplePart
  | .str s => .ok (.text s)
  | .int i => .ok (.number (Decimal.ofInt i))
  | .float x => .ok (.number x)
  | .bool b => .ok (.number (if b then 1.0 else 0.0))
  | _ =>
    .failed [⟨[], "Input should be a valid number"⟩, ⟨[], "Input should be a valid string"⟩]

structure Sample where
  labels : List (String × String)
  value : List SamplePart

def sample : Value → Converted Sample :=
  record fun f =>
    Sample.mk <$> field f "metric" "metric" [] texts
      <*> field f "value" "value" [] (listOf samplePart)

structure MetricAnswer where
  status : String
  samples : List Sample

def metricData : Value → Converted (List Sample) :=
  record fun f =>
    (fun _ samples => samples) <$> field f "resultType" "result_type" "" text
      <*> field f "result" "result" [] (listOf sample)

def metricAnswer : Value → Converted MetricAnswer :=
  record fun f =>
    MetricAnswer.mk <$> field f "status" "status" "" text <*> field f "data" "data" [] metricData

/-- The value of a sample: the part after its time. -/
def sampleValue (body : Body) (query : Option String) (s : Sample) : Except Failure Float :=
  match s.value with
  | _ :: .number x :: _ => .ok x
  | _ :: .text t :: _ =>
    match Decimal.readFloat? t.toList with
    | some x => .ok x
    | none =>
      .error (.transient ("metric sample value " ++ Text.quoted t ++ " is not a number") query
        (some body))
  | _ => .error (.transient "metric sample has no value" query (some body))

def metricValues (body : Body) (query : Option String) : Except Failure (List Float) := do
  let answer ← decode metricAnswer body "metric query" query
  if !answer.status.isEmpty && answer.status != "success" then
    throw (unsuccessful "metric query" answer.status query body)
  answer.samples.mapM (sampleValue body query)

end Response
end TelemetryCheck
