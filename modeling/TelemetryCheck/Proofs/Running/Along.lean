import TelemetryCheck.Runner

/-!
# What is kept all along

A relation between a state and a later one that is reflexive and transitive holds along an action
if every step of the action respects it.  For the work of a runner it is enough that the calls to
the world outside respect the relation and that it does not depend on anything else that changes.
-/

namespace TelemetryCheck
namespace Action

variable {σ τ α β : Type}

/-- What an action changes is as `R` allows. -/
def Along (R : σ → σ → Prop) (a : Action σ α) : Prop := ∀ s, R s (a.runFrom s).2

structure Composable (R : σ → σ → Prop) : Prop where
  refl : ∀ s, R s s
  trans : ∀ {s₁ s₂ s₃}, R s₁ s₂ → R s₂ s₃ → R s₁ s₃

namespace Along

variable {R : σ → σ → Prop} {a : Action σ α} {k : α → Action σ β}

theorem of_run (ha : Along R a) {s s' : σ} {ending : Except Failure α}
    (h : a.runFrom s = (ending, s')) : R s s' := by
  have hrun := ha s
  rw [h] at hrun
  exact hrun

theorem ofExcept (hR : Composable R) (x : Except Failure α) :
    Along R (Action.ofExcept x : Action σ α) := by
  intro s
  cases x with
  | error f => exact hR.refl s
  | ok v => exact hR.refl s

theorem pure (hR : Composable R) (x : α) : Along R (Pure.pure x : Action σ α) := hR.refl

theorem throw (hR : Composable R) (f : Failure) :
    Along R (MonadExcept.throw f : Action σ α) := hR.refl

theorem modify {change : σ → σ} (h : ∀ s, R s (change s)) :
    Along R (modify change : Action σ Unit) := h

theorem bind (hR : Composable R) (ha : Along R a) (hk : ∀ x, Along R (k x)) :
    Along R (a >>= k) := by
  intro s
  have hfirst := ha s
  rw [runFrom_bind]
  cases h : a.runFrom s with
  | mk ending after =>
    rw [h] at hfirst
    cases ending with
    | error f => exact hfirst
    | ok x => exact hR.trans hfirst (hk x after)

theorem get_bind {k : σ → Action σ β} (hk : ∀ s, Along R (k s)) : Along R (get >>= k) :=
  fun s => hk s s

theorem tryCatch (hR : Composable R) {handle : Failure → Action σ α} (ha : Along R a)
    (hhandle : ∀ f, Along R (handle f)) : Along R (MonadExcept.tryCatch a handle) := by
  intro s
  have hfirst := ha s
  have hrun := runFrom_tryCatch a handle s
  cases h : a.runFrom s with
  | mk ending after =>
    rw [h] at hfirst hrun
    rw [hrun]
    cases ending with
    | error f => exact hR.trans hfirst (hhandle f after)
    | ok x => exact hfirst

theorem attempt {a : Action σ Unit} (ha : Along R a) : Along R a.attempt := by
  intro s
  have hfirst := ha s
  rw [runFrom_attempt]
  cases h : a.runFrom s with
  | mk ending after =>
    rw [h] at hfirst
    cases ending with
    | error f => cases f <;> exact hfirst
    | ok x => exact hfirst

theorem ite {condition : Prop} [Decidable condition] {a' : Action σ α} (ha : Along R a)
    (ha' : Along R a') : Along R (if condition then a else a') := by
  by_cases h : condition
  · rw [if_pos h]
    exact ha
  · rw [if_neg h]
    exact ha'

/-! ## Polling -/

variable [Time τ] {clock : Clock σ τ} {plan : Polling.Plan σ τ}

theorem poll (hR : Composable R) (hnow : Along R (Action.always clock.now))
    (hsleep : ∀ t, Along R (clock.sleep t)) (hattempt : Along R plan.attempt)
    (honRetry : ∀ n t e, Along R (plan.onRetry n t e)) (fuel : Nat) :
    Along R (Polling.poll clock plan fuel) := by
  refine bind hR hnow fun start => ?_
  generalize 0 = iterations, (none : Option Retryable) = last
  induction fuel generalizing iterations last with
  | zero => exact throw hR _
  | succ fuel ih =>
    refine bind hR hnow fun head => ite (pure hR _) (bind hR hattempt.attempt fun failed => ?_)
    cases failed with
    | none => exact bind hR hnow fun _ => pure hR _
    | some e =>
      refine bind hR hnow fun now => bind hR (honRetry _ _ _) fun _ => bind hR ?_ fun _ => ih _ _
      exact ite (hsleep _) (pure hR ())

end Along
end Action

/-! ## The work of a runner -/

open TelemetryCheck.Action

variable {ω τ α β : Type}

def Untouched (b b' : Running ω τ) : Prop :=
  b'.world.outside = b.world.outside ∧ b'.world.testCase = b.world.testCase

theorem Untouched.of_world {b b' : Running ω τ} (h : b'.world = b.world) : Untouched b b' :=
  ⟨congrArg Progress.outside h, congrArg Progress.testCase h⟩

/-- A relation that the looks at the clock and the calls made in a round respect. -/
structure Runner.Respects (r : Runner ω τ) (client : Http.Client (Bench ω))
    (R : Running ω τ → Running ω τ → Prop) : Prop where
  quiet : ∀ {b b'}, Untouched b b' → R b b'
  trans : ∀ {b₁ b₂ b₃}, R b₁ b₂ → R b₂ b₃ → R b₁ b₃
  now : Along R r.now
  request : ∀ call, Along R (Runner.outside (client.request call))
  runPromql : ∀ q, Along R (Runner.outside (r.endpoint.runPromql q))
  searchTraces : ∀ q, Along R (Runner.outside (r.endpoint.searchTraces q))
  traceById : ∀ id, Along R (Runner.outside (r.endpoint.traceById id))
  searchLogs : ∀ q, Along R (Runner.outside (r.endpoint.searchLogs q))
  searchProfiles : ∀ q, Along R (Runner.outside (r.endpoint.searchProfiles q))
  searchComposeLogs : ∀ message, Along R (Runner.outside (r.endpoint.searchComposeLogs message))
  runScript : ∀ script, Along R (Runner.outside (r.runScript script))

namespace Runner.Respects

variable {r : Runner ω τ} {client : Http.Client (Bench ω)} {R : Running ω τ → Running ω τ → Prop}

theorem composable (h : r.Respects client R) : Composable R :=
  ⟨fun _ => h.quiet ⟨rfl, rfl⟩, h.trans⟩

theorem modify (h : r.Respects client R) {change : Running ω τ → Running ω τ}
    (hchange : ∀ b, Untouched b (change b)) : Along R (modify change : Action (Running ω τ) Unit) :=
  .modify fun b => h.quiet (hchange b)

theorem testCase_bind {k : TestCase τ → Action (Running ω τ) α} (hk : ∀ c, Along R (k c)) :
    Along R (Runner.testCase >>= k) := fun b => hk b.world.testCase b

theorem log (h : r.Respects client R) (level : Level) (name : String)
    (fields : List (String × Json.Value)) :
    Along R (Runner.log level name fields : Action (Running ω τ) Unit) :=
  testCase_bind fun _ => h.modify fun _ => ⟨rfl, rfl⟩

theorem write (h : r.Respects client R) (file : QueryLog) (text : String) :
    Along R (file.write text : Action (Running ω τ) Unit) := by
  unfold QueryLog.write
  cases file.file with
  | none => exact .pure h.composable ()
  | some path => exact h.modify fun _ => ⟨rfl, rfl⟩

theorem withSpan (h : r.Respects client R) {name : String} {attributes : List (String × Json.Value)}
    {body : Nat → Action (Running ω τ) α} (hbody : ∀ index, Along R (body index)) :
    Along R (Bench.withSpan name attributes body) := by
  refine .get_bind fun b => .bind h.composable (h.modify fun _ => ⟨rfl, rfl⟩) fun _ =>
    .tryCatch h.composable (hbody _) fun f => ?_
  simp only
  split
  · exact .throw h.composable f
  · exact .bind h.composable (h.modify fun _ => ⟨rfl, rfl⟩) fun _ => .throw h.composable f

theorem queryLog_bind {k : QueryLog → Action (Running ω τ) α} (hk : ∀ file, Along R (k file)) :
    Along R (r.queryLog >>= k) := fun b => hk ⟨b.world.logFile, r.settings.verbose⟩ b

theorem record (h : r.Respects client R) (query : String) (response : Option Body)
    (error : Option String) : Along R (r.record query response error) := by
  refine queryLog_bind fun file => .get_bind fun b => .bind h.composable (h.write _ _) fun _ => ?_
  exact .ite (h.modify fun _ => ⟨rfl, rfl⟩) (.pure h.composable ())

theorem ask (h : r.Respects client R) (query : String) {call : Action (Bench ω) Body}
    (hcall : Along R (Runner.outside call)) : Along R (r.ask query call) := by
  refine .bind h.composable (.tryCatch h.composable hcall fun f => ?_) fun body => ?_
  · simp only
    split
    · exact .bind h.composable (h.record _ _ _) fun _ => .throw h.composable _
    · exact .throw h.composable _
  · exact .bind h.composable (h.record _ _ _) fun _ => .pure h.composable body

theorem fetchTraces (h : r.Respects client R) (query : String) (ids : List String) :
    Along R (r.fetchTraces query ids) := by
  have hR := h.composable
  induction ids with
  | nil => exact .pure hR _
  | cons id rest ih =>
    exact .bind hR (h.ask _ (h.traceById id)) fun body => .bind hR (.ofExcept hR _) fun spans =>
      .bind hR ih fun _ => .pure hR _

theorem sendInputs (h : r.Respects client R) (ports : Ports) (inputs : List Input) :
    Along R (Runner.outside (TelemetryCheck.sendInputs client ports inputs) :
      Action (Running ω τ) Unit) := by
  have hR := h.composable
  induction inputs with
  | nil => exact .pure hR ()
  | cons input rest ih =>
    unfold TelemetryCheck.sendInputs TelemetryCheck.sendInput
    rw [Runner.outside_bind, Runner.outside_bind]
    refine .bind hR (.bind hR (h.request _) fun exchange => ?_) fun _ => ih
    rw [Runner.outside_ofExcept]
    exact .ofExcept hR _

theorem applicable (h : r.Respects client R) (checks : List Check) :
    Along R (Runner.applicable checks : Action (Running ω τ) (List Check)) := by
  have hR := h.composable
  induction checks with
  | nil => exact .pure hR _
  | cons check rest ih =>
    exact testCase_bind fun c => .ite (.bind hR ih fun _ => .pure hR _)
      (.bind hR (h.log _ _ _) fun _ => ih)

variable [Time τ]

theorem runCustom (h : r.Respects client R) (e : CustomCheck) : Along R (r.runCustom e) := by
  have hR := h.composable
  refine testCase_bind fun c => queryLog_bind fun file => .bind hR (h.write _ _) fun _ =>
    .bind hR (h.runScript _) fun ended => ?_
  have hjudge : Along R (Action.ofExcept (scriptFailure e.script c.timeout ended) :
      Action (Running ω τ) Unit) := .ofExcept hR _
  cases ended with
  | timedOut => exact hjudge
  | notStarted f => exact hjudge
  | finished status output errors => exact .bind hR (h.record _ _ _) fun _ => hjudge

theorem perform (h : r.Respects client R) (check : Check) : Along R (r.perform check) := by
  have hR := h.composable
  cases check with
  | composeLogs message =>
    exact .bind hR (h.searchComposeLogs message) fun found => .bind hR (h.record _ _ _) fun _ =>
      .ofExcept hR _
  | logs e => exact .bind hR (h.ask _ (h.searchLogs _)) fun body => .ofExcept hR _
  | traces e =>
    exact .bind hR (h.ask _ (h.searchTraces _)) fun found => .bind hR (.ofExcept hR _) fun ids =>
      .bind hR (h.fetchTraces _ ids) fun fetched => .ofExcept hR _
  | metrics e => exact .bind hR (h.ask _ (h.runPromql _)) fun body => .ofExcept hR _
  | profiles e => exact .bind hR (h.ask _ (h.searchProfiles _)) fun body => .ofExcept hR _
  | custom e => exact h.runCustom e

theorem round (h : r.Respects client R) (check : Check) : Along R (r.round client check) := by
  have hR := h.composable
  have hrest : Along R (do
      let c ← Runner.testCase
      Runner.outside (TelemetryCheck.sendInputs client c.ports c.definition.input)
      r.perform check : Action (Running ω τ) Unit) :=
    testCase_bind fun c => .bind hR (h.sendInputs _ _) fun _ => h.perform check
  refine .bind hR h.now fun now => .get_bind fun b => .bind hR (h.modify fun _ => ⟨rfl, rfl⟩)
    fun _ => ?_
  exact .ite (.bind hR (h.log _ _ _) fun _ => hrest) hrest

/-! ## The checks and the feeding, which also wait -/

theorem timeFor (h : r.Respects client R) (check : Check) : Along R (r.timeFor check) := by
  have hR := h.composable
  refine .bind hR (testCase_bind fun c => ?_) fun _ => testCase_bind fun _ => .pure hR _
  cases c.deadline with
  | none => exact .pure hR _
  | some deadline => exact .bind hR h.now fun _ => .pure hR _

theorem noteRetry (h : r.Respects client R) (iteration : Nat) (elapsed : τ) (error : Retryable) :
    Along R (r.noteRetry iteration elapsed error) :=
  queryLog_bind fun _ => h.write _ _

theorem noteResult (h : r.Respects client R) (span : Nat) (result : CheckResult τ) :
    Along R (Runner.noteResult span result : Action (Running ω τ) Unit) :=
  .ite (h.log _ _ _) (.bind h.composable (h.modify fun _ => ⟨rfl, rfl⟩) fun _ => h.log _ _ _)

section Waiting

variable (h : r.Respects client R) (hsleep : ∀ t, Along R (Runner.outside (r.clock.sleep t)))
include h hsleep

theorem runCheck (check : Check) : Along R (r.runCheck client check) := by
  have hR := h.composable
  refine .bind hR (h.timeFor check) fun deadline => .bind hR h.now fun now => ?_
  refine .bind hR (h.modify fun _ => ⟨rfl, rfl⟩) fun _ => .bind hR (h.log _ _ _) fun _ => ?_
  refine testCase_bind fun c => h.withSpan fun span => .bind hR ?_ fun poll => ?_
  · refine .poll hR ?_ hsleep (h.round check) h.noteRetry r.rounds
    exact h.now
  · exact .bind hR (h.modify fun _ => ⟨rfl, rfl⟩) fun _ => .bind hR (h.noteResult _ _) fun _ =>
      .pure hR _

theorem runChecks (checks : List Check) : Along R (r.runChecks client checks) := by
  have hR := h.composable
  induction checks with
  | nil => exact .pure hR _
  | cons check rest ih =>
    refine .bind hR (h.runCheck hsleep check) fun result => .ite ?_
      (.bind hR ih fun _ => .pure hR _)
    simp only
    split
    · exact .pure hR _
    · exact .bind hR (h.log _ _ _) fun _ => .pure hR _

theorem feed (fuel : Nat) : Along R (r.feed client fuel) := by
  have hR := h.composable
  induction fuel with
  | zero => exact .throw hR _
  | succ fuel ih =>
    refine testCase_bind fun c => .bind hR (.tryCatch hR (h.sendInputs _ _) fun f => ?_) fun _ =>
      .bind hR (hsleep _) fun _ => ih
    split
    · exact h.log _ _ _
    · exact .throw hR _

theorem manualDebug : Along R (r.manualDebug client) := by
  have hR := h.composable
  refine testCase_bind fun c => .bind hR (h.log _ _ _) fun _ => ?_
  exact .tryCatch hR (h.feed hsleep r.rounds) fun f => .ite (h.log _ _ _) (.throw hR f)

end Waiting

theorem work (h : r.Respects client R) (hsleep : ∀ t, Along R (Runner.outside (r.clock.sleep t))) :
    Along R (r.work client) := by
  have hR := h.composable
  refine testCase_bind fun c => .ite ?_ ?_
  · exact .bind hR (h.manualDebug hsleep) fun _ => .pure hR _
  · refine .bind hR (testCase_bind fun c => h.applicable _) fun checks => h.runChecks hsleep checks

end Runner.Respects
end TelemetryCheck
