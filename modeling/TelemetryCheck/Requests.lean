import TelemetryCheck.Definition
import TelemetryCheck.Http
import TelemetryCheck.Ports

/-!
# Requests

Every round calls the application with each input once, so that it keeps producing telemetry. The
first call that fails ends the round.
-/

namespace TelemetryCheck

/-- Applications under test often sign their own certificates. -/
def inputOptions : Http.Options := { verify := false, timeout := 10.0 }

def inputUrl (input : Input) (ports : Ports) : String :=
  input.effectiveScheme ++ "://" ++ input.effectiveHost ++ ":" ++
    Decimal.natText ports.application ++ input.path

def inputCall (input : Input) (ports : Ports) : Http.Call where
  method := input.effectiveMethod
  url := inputUrl input ports
  headers := input.headers
  body := if input.body.isEmpty then none else some input.body

def checkInput (input : Input) (ports : Ports) : Http.Exchange → Except Failure Unit
  | .failed message =>
    let url := inputUrl input ports
    .error (.transient ("expected no error calling application endpoint " ++ url ++ ": " ++
      message) (some url) none)
  | .answered status content =>
    if status = input.expectedStatus then .ok ()
    else
      let url := inputUrl input ports
      .error (.transient ("expected HTTP status " ++ Decimal.intText input.expectedStatus ++
        " from " ++ url ++ ", but got: " ++ Decimal.intText status) (some url) (some content))

theorem checkInput_eq_ok {input : Input} {ports : Ports} {exchange : Http.Exchange} :
    checkInput input ports exchange = .ok () ↔
      ∃ content, exchange = .answered input.expectedStatus content := by
  cases exchange with
  | failed message => simp [checkInput]
  | answered status content => simp [checkInput]

variable {σ : Type}

def sendInput (client : Http.Client σ) (ports : Ports) (input : Input) : Action σ Unit := do
  let exchange ← client.request (inputCall input ports)
  Action.ofExcept (checkInput input ports exchange)

/-- An input is one call, and what comes of it is judged. -/
theorem runFrom_sendInput (client : Http.Client σ) (ports : Ports) (input : Input) (s : σ) :
    (sendInput client ports input).runFrom s =
      (((client.request (inputCall input ports)).runFrom s).1 >>= checkInput input ports,
        ((client.request (inputCall input ports)).runFrom s).2) := by
  rw [sendInput, Action.runFrom_bind]
  rcases (client.request (inputCall input ports)).runFrom s with ⟨f | exchange, s'⟩
  · rfl
  · exact Action.runFrom_ofExcept _ _

/-- Sends every input in order, up to the first failure. -/
def sendInputs (client : Http.Client σ) (ports : Ports) : List Input → Action σ Unit
  | [] => pure ()
  | input :: rest => do
    sendInput client ports input
    sendInputs client ports rest

end TelemetryCheck
