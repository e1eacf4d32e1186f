import TelemetryCheck.Bench
import TelemetryCheck.Http
import TelemetryCheck.Ports
import TelemetryCheck.Text.Line

/-!
# Endpoint

Access to the backends of one test case. Queries come to the answer as it was sent; decoding is
left to others.
-/

namespace TelemetryCheck

structure Endpoint (σ : Type) where
  runPromql : String → Action σ Body
  searchTraces : String → Action σ Body
  traceById : String → Action σ Body
  searchLogs : String → Action σ Body
  searchProfiles : String → Action σ Body
  /-- Whether the output of the services has a line with a text in it. -/
  searchComposeLogs : String → Action σ Bool
  start : Action σ Unit
  stop : Action σ Unit

/-- Sets up and takes down what is behind an endpoint. Some can also show what the services put
out. -/
structure Provisioner (σ : Type) where
  name : String
  start : Action σ Unit
  stop : Action σ Unit
  readLogs : Option (Action σ String) := none

/-- For backends that run already. -/
def Provisioner.idle {σ : Type} : Provisioner σ where
  name := "NoOpProvisioner"
  start := pure ()
  stop := pure ()

def someLineHas (part output : String) : Bool :=
  (Text.lines output.toList).any (Text.occurs part.toList)

namespace HttpEndpoint

structure Setup where
  ports : Ports
  host : String := "localhost"
  logLimit : Int := 1000

def options : Http.Options := { timeout := 10.0 }

variable {ω : Type}

def url (setup : Setup) (port : Nat) (path : String) : String :=
  "http://" ++ setup.host ++ ":" ++ Decimal.natText port ++ path

def content (url query : String) : Http.Exchange → Except Failure Body
  | .failed message =>
    .error (.transient ("request to " ++ url ++ " failed: " ++ message) (some query) none)
  | .answered status content =>
    if status = 200 then .ok content
    else
      .error (.transient ("expected HTTP status 200 from " ++ url ++ ", but got: " ++
        Decimal.intText status) (some query) (some content))

def fetch (client : Http.Client (Bench ω)) (url query : String)
    (parameters : Option (List (String × Http.Parameter))) : Action (Bench ω) Body := do
  let exchange ← client.get url parameters
  Action.ofExcept (content url query exchange)

def searchOutput (provisioner : Provisioner (Bench ω)) (message : String) :
    Action (Bench ω) Bool :=
  match provisioner.readLogs with
  | none =>
    throw (.transient (provisioner.name ++ " does not provide service logs") (some message) none)
  | some readLogs => return someLineHas message (← readLogs)

def announce (provisioner : Provisioner (Bench ω)) (event : String) : Action (Bench ω) Unit :=
  Bench.log .info event
    [("provisioner", .str provisioner.name), ("component", .str "HttpEndpoint")]

/-- The endpoint that queries the backends with a client. -/
def make (setup : Setup) (client : Http.Client (Bench ω))
    (provisioner : Provisioner (Bench ω) := .idle) : Endpoint (Bench ω) where
  runPromql query :=
    fetch client (url setup setup.ports.prometheus "/api/v1/query") query
      (some [("query", .text query)])
  searchTraces query :=
    fetch client (url setup setup.ports.tempo "/api/search") query (some [("q", .text query)])
  traceById id :=
    fetch client (url setup setup.ports.tempo ("/api/traces/" ++ id)) ("trace " ++ id) none
  searchLogs query :=
    fetch client (url setup setup.ports.loki "/loki/api/v1/query_range") query
      (some [("since", .text "5m"), ("limit", .number setup.logLimit), ("query", .text query)])
  searchProfiles query :=
    fetch client (url setup setup.ports.pyroscope "/pyroscope/render") query
      (some [("from", .text "now-1m"), ("query", .text query)])
  searchComposeLogs := searchOutput provisioner
  start := do
    announce provisioner "endpoint_starting"
    provisioner.start
  stop := do
    announce provisioner "endpoint_stopping"
    provisioner.stop

end HttpEndpoint
end TelemetryCheck
