import TelemetryCheck.Proofs.Running.Observation
import TelemetryCheck.Proofs.Running.Refinement

/-!
# Wrapped calls

A runner can make each of its calls in a world that keeps more, by one and the same wrapping of the
calls.  If one wrapping keeps more than another, the runner does the same with both.
-/

namespace TelemetryCheck

variable {ω υ υ' τ α : Type}

/-- How a call is made in a world that keeps more, and how the clock is looked at there.  Each call
comes with the interaction that it amounts to. -/
structure Wrapping (ω υ τ : Type) where
  call : {α : Type} → (Except Failure α → Interaction τ) → Action (Bench ω) α →
    Action (Bench υ) α
  look : StateM (Bench ω) τ → StateM (Bench υ) τ

def Http.Client.wrapped (w : Wrapping ω υ τ) (client : Http.Client (Bench ω)) :
    Http.Client (Bench υ) where
  request call := w.call (.called call) (client.request call)
  get url parameters := w.call (.fetched url) (client.get url parameters)
  close := w.call .closed client.close

def Endpoint.wrapped (w : Wrapping ω υ τ) (endpoint : Endpoint (Bench ω)) :
    Endpoint (Bench υ) where
  runPromql query := w.call (.asked (.promql query)) (endpoint.runPromql query)
  searchTraces query := w.call (.asked (.traces query)) (endpoint.searchTraces query)
  traceById id := w.call (.asked (.trace id)) (endpoint.traceById id)
  searchLogs query := w.call (.asked (.logs query)) (endpoint.searchLogs query)
  searchProfiles query := w.call (.asked (.profiles query)) (endpoint.searchProfiles query)
  searchComposeLogs message := w.call (.searched message) (endpoint.searchComposeLogs message)
  start := w.call .started endpoint.start
  stop := w.call .stopped endpoint.stop

def Http.Network.wrapped (w : Wrapping ω υ τ) (network : Http.Network (Bench ω)) :
    Http.Network (Bench υ) where
  connect options := do
    let client ← w.call (fun outcome => .connected outcome.toBool) (network.connect options)
    return client.wrapped w

def Runner.wrapped (w : Wrapping ω υ τ) (r : Runner ω τ) : Runner υ τ where
  clock := ⟨w.look r.clock.now, fun time => w.call (.slept time) (r.clock.sleep time)⟩
  endpoint := r.endpoint.wrapped w
  network := r.network.wrapped w
  client := r.client.map (Http.Client.wrapped w)
  runScript script := w.call (.ran script) (r.runScript script)
  settings := r.settings
  order := r.order
  rounds := r.rounds

def Wrapping.plain : Wrapping ω ω τ where
  call _ a := a
  look now := now

theorem Runner.wrapped_plain (r : Runner ω τ) : r.wrapped .plain = r := by
  have hclient : Http.Client.wrapped (Wrapping.plain : Wrapping ω ω τ) = id := rfl
  have hnetwork : r.network.wrapped (Wrapping.plain : Wrapping ω ω τ) = r.network := by
    have hconnect : ∀ options, (r.network.wrapped (Wrapping.plain : Wrapping ω ω τ)).connect
        options = r.network.connect options := fun options => bind_pure (r.network.connect options)
    exact congrArg Http.Network.mk (funext hconnect)
  unfold Runner.wrapped
  rw [hclient, hnetwork, Option.map_id]
  rfl

theorem Http.Network.runFrom_wrapped_connect {w : Wrapping ω υ τ}
    {network : Http.Network (Bench ω)} {options : Http.Options} {b after : Bench υ}
    {ending : Except Failure (Http.Client (Bench ω))}
    (h : (w.call (fun outcome => .connected outcome.toBool) (network.connect options)).runFrom b =
      (ending, after)) :
    ((network.wrapped w).connect options).runFrom b =
      (ending.map (Http.Client.wrapped w), after) := by
  unfold Http.Network.wrapped
  rw [Action.runFrom_bind, h]
  cases ending <;> rfl

/-- A runner whose calls are wrapped gets a client whose calls are wrapped. -/
theorem Runner.wrapped_connect_cases {w : Wrapping ω υ τ} {r : Runner ω τ} {options : Http.Options}
    {b b' : Running υ τ} {ending : Except Failure (Http.Client (Bench υ))}
    (h : (outside ((r.wrapped w).network.connect options)).runFrom b = (ending, b')) :
    ∃ outcome, ending = outcome.map (Http.Client.wrapped w) ∧
      (outside (w.call (fun outcome => .connected outcome.toBool)
        (r.network.connect options))).runFrom b = (outcome, b') := by
  cases hcall : (w.call (fun outcome => .connected outcome.toBool)
      (r.network.connect options)).runFrom (b.withWorld b.world.outside) with
  | mk outcome after =>
    have hconnect : ((r.wrapped w).network.connect options).runFrom (b.withWorld b.world.outside) =
        (outcome.map (Http.Client.wrapped w), after) :=
      Http.Network.runFrom_wrapped_connect hcall
    rw [runFrom_outside, hconnect] at h
    cases h
    refine ⟨outcome, rfl, ?_⟩
    rw [runFrom_outside, hcall]

/-! ## Wrappings that keep more -/

/-- Seen through the view, the calls and the looks at the clock of one wrapping are those of another
one. -/
structure Wrapping.Refines (view : υ → υ') (w : Wrapping ω υ τ) (plain : Wrapping ω υ' τ) :
    Prop where
  call : ∀ {α : Type} (note : Except Failure α → Interaction τ) (a : Action (Bench ω) α),
    Action.Refines (Bench.through view) (w.call note a) (plain.call note a)
  look : ∀ (now : StateM (Bench ω) τ) (b : Bench υ),
    (plain.look now).run (Bench.through view b) =
      (((w.look now).run b).1, Bench.through view ((w.look now).run b).2)

namespace Wrapping.Refines

variable {view : υ → υ'} {w : Wrapping ω υ τ} {plain : Wrapping ω υ' τ}

theorem client (h : w.Refines view plain) (client : Http.Client (Bench ω)) :
    (client.wrapped w).Refines (Bench.through view) (client.wrapped plain) :=
  ⟨fun _ => h.call _ _, h.call _ _⟩

theorem connect (h : w.Refines view plain) (network : Http.Network (Bench ω))
    (options : Http.Options) :
    Action.RefinesTo (Bench.through view) (Http.Client.Refines (Bench.through view))
      ((network.wrapped w).connect options) ((network.wrapped plain).connect options) := by
  intro b
  have hplain := h.call (fun outcome => .connected outcome.toBool) (network.connect options) b
  cases hcall : (w.call (fun outcome => .connected outcome.toBool)
      (network.connect options)).runFrom b with
  | mk ending after =>
    rw [hcall] at hplain
    rw [Http.Network.runFrom_wrapped_connect hcall, Http.Network.runFrom_wrapped_connect hplain]
    cases ending with
    | error f => exact ⟨rfl, rfl⟩
    | ok client => exact ⟨rfl, h.client client⟩

theorem runner (h : w.Refines view plain) (r : Runner ω τ) :
    (r.wrapped w).Refines view (r.wrapped plain) where
  clock := ⟨h.look _, fun _ => h.call _ _⟩
  endpoint := by
    constructor <;> intros <;> exact h.call _ _
  connect := h.connect r.network
  client := by
    unfold Runner.wrapped
    cases r.client with
    | none => exact .none
    | some given => exact .some (h.client given)
  runScript _ := h.call _ _
  settings := rfl
  order := rfl
  rounds := rfl

end Wrapping.Refines
end TelemetryCheck
