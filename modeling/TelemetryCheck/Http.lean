import TelemetryCheck.Action
import TelemetryCheck.Body

/-!
# HTTP

Calls and what comes of them. How a call travels is a matter of the client.
-/

namespace TelemetryCheck
namespace Http

structure Call where
  method : String
  url : String
  headers : List (String × String) := []
  body : Option String := none
  deriving Repr, DecidableEq

inductive Parameter
  | text (s : String)
  | number (i : Int)
  deriving Repr, DecidableEq

/-- An answer, or a message why there is none. -/
inductive Exchange
  | answered (status : Int) (content : Body)
  | failed (message : String)
  deriving Repr, DecidableEq

structure Client (σ : Type) where
  request : Call → Action σ Exchange
  get : String → Option (List (String × Parameter)) → Action σ Exchange
  close : Action σ Unit

/-- How a client connects; the time-out is in seconds. -/
structure Options where
  verify : Bool := true
  timeout : Float

structure Network (σ : Type) where
  connect : Options → Action σ (Client σ)

end Http
end TelemetryCheck
