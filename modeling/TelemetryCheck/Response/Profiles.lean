import TelemetryCheck.Response.Decoding

namespace TelemetryCheck
namespace Response

open Json (Value)
open Conversion (Converted)

def flamebearer : Value → Converted (List String) :=
  record fun f => field f "names" "names" [] (listOf text)

def profileAnswer : Value → Converted (List String) :=
  record fun f => field f "flamebearer" "flamebearer" [] flamebearer

def flamebearerNames (body : Body) (query : Option String) : Except Failure (List String) :=
  decode profileAnswer body "profile query" query

end Response
end TelemetryCheck
