import TelemetryCheck.Json.Printer
import TelemetryCheck.Matching
import TelemetryCheck.Response.Decoding

namespace TelemetryCheck
namespace Response

open Json (Value)
open Conversion (Converted)

structure LogStream where
  labels : List (String × String)
  values : List (List Value)

structure LogAnswer where
  status : String
  streams : List LogStream

def logStream : Value → Converted LogStream :=
  record fun f =>
    LogStream.mk <$> field f "stream" "stream" [] texts
      <*> field f "values" "values" [] (listOf (listOf anything))

def logData : Value → Converted (List LogStream) :=
  record fun f => field f "result" "result" [] (listOf logStream)

def logAnswer : Value → Converted LogAnswer :=
  record fun f =>
    LogAnswer.mk <$> field f "status" "status" "" text <*> field f "data" "data" [] logData

/-- The record of a log entry: a time, the line and possibly more. Shorter entries have none. -/
def logRecord? (labels : List (String × String)) : List Value → Option Record
  | _ :: line :: _ => some ⟨Json.plainText line, labels⟩
  | _ => none

def LogStream.records (s : LogStream) : List Record := s.values.filterMap (logRecord? s.labels)

/-- One record for each log line, stream by stream. -/
def logLines (body : Body) (query : Option String) : Except Failure (List Record) := do
  let answer ← decode logAnswer body "log query" query
  if answer.status ≠ "success" then throw (unsuccessful "log query" answer.status query body)
  return answer.streams.flatMap LogStream.records

end Response
end TelemetryCheck
