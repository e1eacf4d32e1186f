import TelemetryCheck.Decimal.Written
import TelemetryCheck.Failure

/-!
# Ports

The host ports of the application and of the backends, the fixed ones and the ones handed out to
test cases that run side by side.
-/

namespace TelemetryCheck

structure Ports where
  application : Nat := 8080
  grafana : Nat := 3000
  prometheus : Nat := 9090
  loki : Nat := 3100
  tempo : Nat := 3200
  pyroscope : Nat := 4040
  deriving Repr, DecidableEq

namespace Ports

def toList (p : Ports) : List Nat :=
  [p.application, p.grafana, p.prometheus, p.loki, p.tempo, p.pyroscope]

def asEnv (p : Ports) : List (String × String) :=
  [("APPLICATION_PORT", Decimal.natText p.application),
    ("GRAFANA_HTTP_PORT", Decimal.natText p.grafana),
    ("PROMETHEUS_HTTP_PORT", Decimal.natText p.prometheus),
    ("LOKI_HTTP_PORT", Decimal.natText p.loki),
    ("TEMPO_HTTP_PORT", Decimal.natText p.tempo),
    ("PYROSCOPE_HTTP_PORT", Decimal.natText p.pyroscope)]

def ofList? : List Nat → Option Ports
  | [a, g, p, l, t, y] => some ⟨a, g, p, l, t, y⟩
  | _ => none

end Ports

/-- Hands out port sets to `count` test cases. `handedOut` holds every port given away so far, the
latest first. -/
structure PortAllocator where
  count : Int
  issued : Nat := 0
  handedOut : List Nat := []
  deriving Repr, DecidableEq

namespace PortAllocator

def portsPerCase : Nat := 6

/-- Takes the first port on offer that was not handed out before. An empty offer ends the search
without a port. -/
def freePort (handedOut : List Nat) : List Nat → Option Nat × List Nat
  | [] => (none, [])
  | port :: offers =>
    if handedOut.contains port then freePort handedOut offers else (some port, offers)

/-- Takes `n` fresh ports from the offers; the second list holds what is handed out then. -/
def takePorts (handedOut : List Nat) : Nat → List Nat → Option (List Nat) × List Nat × List Nat
  | 0, offers => (some [], handedOut, offers)
  | n + 1, offers =>
    match freePort handedOut offers with
    | (none, offers) => (none, handedOut, offers)
    | (some port, offers) =>
      let (more, out, offers) := takePorts (port :: handedOut) n offers
      (more.map (port :: ·), out, offers)

inductive Outcome
  | allocated (ports : Ports)
  | exhausted
  | noOffers

/-- Hands out six fresh ports from what the system offers; asked more often than there are test
cases, it refuses and stays as it is. -/
def allocate (a : PortAllocator) (offers : List Nat) : Outcome × PortAllocator × List Nat :=
  if a.count ≤ a.issued then (.exhausted, a, offers)
  else
    match takePorts a.handedOut portsPerCase offers with
    | (none, out, offers) => (.noOffers, { a with issued := a.issued + 1, handedOut := out }, offers)
    | (some taken, out, offers) =>
      ((Ports.ofList? taken).elim .noOffers .allocated,
        { a with issued := a.issued + 1, handedOut := out }, offers)

def Outcome.toExcept (a : PortAllocator) : Outcome → Except Fault Ports
  | .allocated ports => .ok ports
  | .exhausted => .error (.portsExhausted a.count)
  | .noOffers => .error .noPortOffered

end PortAllocator
end TelemetryCheck
