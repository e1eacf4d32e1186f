import TelemetryCheck.Proofs.Refinement
import TelemetryCheck.Runner

/-!
# Runners that keep more

A runner can work with a client, an endpoint and a clock that keep more in the world than the plain
ones and otherwise do the same.  Then all that it does refines what the plain runner does: there is
one lemma for each function of the runner, and the last one is about a whole run.
-/

namespace TelemetryCheck

variable {ω υ τ α β : Type}

def Bench.through (view : ω → υ) (b : Bench ω) : Bench υ := b.withWorld (view b.world)

def Running.through (view : ω → υ) (b : Running ω τ) : Running υ τ :=
  b.withWorld
    { outside := view b.world.outside
      testCase := b.world.testCase
      heartbeat := b.world.heartbeat
      loud := b.world.loud
      logFile := b.world.logFile }

/-! ## What a runner works with -/

structure Http.Client.Refines {σ ρ : Type} (view : σ → ρ) (client : Http.Client σ)
    (plain : Http.Client ρ) : Prop where
  request : ∀ call, Action.Refines view (client.request call) (plain.request call)
  close : Action.Refines view client.close plain.close

structure Endpoint.Refines {σ ρ : Type} (view : σ → ρ) (endpoint : Endpoint σ)
    (plain : Endpoint ρ) : Prop where
  runPromql : ∀ q, Action.Refines view (endpoint.runPromql q) (plain.runPromql q)
  searchTraces : ∀ q, Action.Refines view (endpoint.searchTraces q) (plain.searchTraces q)
  traceById : ∀ id, Action.Refines view (endpoint.traceById id) (plain.traceById id)
  searchLogs : ∀ q, Action.Refines view (endpoint.searchLogs q) (plain.searchLogs q)
  searchProfiles : ∀ q, Action.Refines view (endpoint.searchProfiles q) (plain.searchProfiles q)
  searchComposeLogs : ∀ message,
    Action.Refines view (endpoint.searchComposeLogs message) (plain.searchComposeLogs message)
  start : Action.Refines view endpoint.start plain.start
  stop : Action.Refines view endpoint.stop plain.stop

structure Runner.Refines (view : ω → υ) (r : Runner ω τ) (plain : Runner υ τ) : Prop where
  clock : r.clock.Refines (Bench.through view) plain.clock
  endpoint : r.endpoint.Refines (Bench.through view) plain.endpoint
  connect : ∀ options,
    Action.RefinesTo (Bench.through view) (Http.Client.Refines (Bench.through view))
    (r.network.connect options) (plain.network.connect options)
  client : Option.Rel (Http.Client.Refines (Bench.through view)) r.client plain.client
  runScript : ∀ script, Action.Refines (Bench.through view) (r.runScript script)
    (plain.runScript script)
  settings : r.settings = plain.settings
  order : r.order = plain.order
  rounds : r.rounds = plain.rounds

namespace Running

open TelemetryCheck.Action

variable {view : ω → υ}

/-! ## The bench of a run -/

theorem inside_through (b : Running ω τ) :
    (Running.through view b).withWorld (Running.through view b).world.outside =
      Bench.through view (b.withWorld b.world.outside) := rfl

theorem refines_outside {a : Action (Bench ω) α} {plain : Action (Bench υ) α}
    (h : Refines (Bench.through view) a plain) :
    Refines (Running.through view) (Runner.outside a : Action (Running ω τ) α)
      (Runner.outside plain) := by
  intro b
  rw [Runner.runFrom_outside, Runner.runFrom_outside, inside_through,
    h (b.withWorld b.world.outside)]
  rfl

theorem refinesTo_outside {standsFor : α → β → Prop} {a : Action (Bench ω) α}
    {plain : Action (Bench υ) β} (h : RefinesTo (Bench.through view) standsFor a plain) :
    RefinesTo (Running.through view) standsFor (Runner.outside a : Action (Running ω τ) α)
      (Runner.outside plain) := by
  intro b
  obtain ⟨hafter, hending⟩ := h (b.withWorld b.world.outside)
  rw [Runner.runFrom_outside, Runner.runFrom_outside, inside_through, hafter]
  exact ⟨rfl, hending⟩

theorem refines_withSpan {name : String} {attributes : List (String × Json.Value)}
    {body : Nat → Action (Running ω τ) α} {plain : Nat → Action (Running υ τ) α}
    (h : ∀ index, Refines (Running.through view) (body index) (plain index)) :
    Refines (Running.through view) (Bench.withSpan name attributes body)
      (Bench.withSpan name attributes plain) := by
  refine .get_bind fun b => .bind (.modify fun _ => rfl) fun _ => .tryCatch (h _) fun f => ?_
  simp only
  split
  · exact .throw f
  · exact .bind (.modify fun _ => rfl) fun _ => .throw f

theorem refines_ofFault (x : Except Fault α) :
    Refines (Running.through view) (Action.ofFault x : Action (Running ω τ) α)
      (Action.ofFault x) := by
  intro b
  cases x <;> rfl

theorem refines_ask (question : Files → Except Fault α) :
    Refines (Running.through view) (Bench.ask question : Action (Running ω τ) α)
      (Bench.ask question) :=
  .get_bind fun b => refines_ofFault (question b.files)

theorem refines_change (act : Files → Except Fault Files) :
    Refines (Running.through view) (Bench.change act : Action (Running ω τ) Unit)
      (Bench.change act) :=
  .bind (refines_ask act) fun _ => .modify fun _ => rfl

theorem refines_testCase :
    Refines (Running.through view) (Runner.testCase : Action (Running ω τ) (TestCase τ))
      Runner.testCase := fun _ => rfl

theorem refines_log (level : Level) (name : String) (fields : List (String × Json.Value)) :
    Refines (Running.through view) (Runner.log level name fields : Action (Running ω τ) Unit)
      (Runner.log level name fields) :=
  .bind refines_testCase fun _ => .modify fun _ => rfl

theorem refines_write (file : QueryLog) (text : String) :
    Refines (Running.through view) (file.write text : Action (Running ω τ) Unit)
      (file.write text) := by
  unfold QueryLog.write
  cases file.file with
  | none => exact .pure ()
  | some path => exact .modify fun _ => rfl

theorem refines_accept (c : TestCase τ) :
    Refines (Running.through view) (c.accept : Action (Running ω τ) (TestCase τ)) c.accept := by
  refine .bind (refines_ask _) fun findings => ?_
  have hrest : Refines (Running.through view)
      (do Bench.log .debug "test_case_ports" c.portFields
          return c.withPorts : Action (Running ω τ) (TestCase τ))
      (do Bench.log .debug "test_case_ports" c.portFields
          return c.withPorts) :=
    .bind (.modify fun _ => rfl) fun _ => .pure _
  simp only
  split
  · exact hrest
  · exact .bind (.modify fun _ => rfl) fun _ => .throw _

theorem refines_applicable (checks : List Check) :
    Action.Refines (Running.through view)
      (Runner.applicable checks : Action (Running ω τ) (List Check))
      (Runner.applicable checks) := by
  induction checks with
  | nil => exact .pure _
  | cons check rest ih =>
    refine .bind refines_testCase fun c => .ite (.bind ih fun _ => .pure _) ?_
    exact .bind (refines_log _ _ _) fun _ => ih

end Running

/-! ## The parts of a round -/

namespace Runner.Refines

open TelemetryCheck.Action Running

variable {view : ω → υ} {r : Runner ω τ} {plain : Runner υ τ} {client : Http.Client (Bench ω)}
  {plainClient : Http.Client (Bench υ)}

theorem now (h : r.Refines view plain) : Action.Refines (Running.through view) r.now plain.now :=
  refines_outside (.always h.clock.now)

theorem runningClock (h : r.Refines view plain) :
    r.runningClock.Refines (Running.through view) plain.runningClock := by
  refine ⟨fun b => ?_, fun t => refines_outside (h.clock.sleep t)⟩
  rw [run_runningClock_now, run_runningClock_now, inside_through,
    h.clock.now (b.withWorld b.world.outside)]
  rfl

theorem queryLog (h : r.Refines view plain) :
    Action.Refines (Running.through view) r.queryLog plain.queryLog := by
  unfold Runner.queryLog
  rw [h.settings]
  exact .get_bind fun b => .pure _

theorem record (h : r.Refines view plain) (query : String) (response : Option Body)
    (error : Option String) :
    Action.Refines (Running.through view) (r.record query response error)
      (plain.record query response error) := by
  refine .bind h.queryLog fun file => .get_bind fun b => .bind (refines_write _ _) fun _ => ?_
  exact .ite (.modify fun _ => rfl) (.pure ())

theorem ask (h : r.Refines view plain) (query : String) {call : Action (Bench ω) Body}
    {plainCall : Action (Bench υ) Body}
    (hcall : Action.Refines (Bench.through view) call plainCall) :
    Action.Refines (Running.through view) (r.ask query call) (plain.ask query plainCall) := by
  refine .bind (.tryCatch (refines_outside hcall) fun f => ?_) fun body => ?_
  · simp only
    split
    · exact .bind (h.record _ _ _) fun _ => .throw _
    · exact .throw _
  · exact .bind (h.record _ _ _) fun _ => .pure body

theorem fetchTraces (h : r.Refines view plain) (query : String) (ids : List String) :
    Action.Refines (Running.through view) (r.fetchTraces query ids)
      (plain.fetchTraces query ids) := by
  induction ids with
  | nil => exact .pure _
  | cons id rest ih =>
    exact .bind (h.ask _ (h.endpoint.traceById id)) fun body => .bind (.ofExcept _) fun spans =>
      .bind ih fun _ => .pure _

theorem runCustom [Time τ] (h : r.Refines view plain) (e : CustomCheck) :
    Action.Refines (Running.through view) (r.runCustom e) (plain.runCustom e) := by
  refine .bind refines_testCase fun c => .bind h.queryLog fun file => .bind (refines_write _ _)
    fun _ => .bind (refines_outside (h.runScript _)) fun ended => ?_
  have hjudge : Action.Refines (Running.through view)
      (Action.ofExcept (scriptFailure e.script c.timeout ended) : Action (Running ω τ) Unit)
      (Action.ofExcept (scriptFailure e.script c.timeout ended)) := .ofExcept _
  cases ended with
  | timedOut => exact .bind (.pure ()) fun _ => hjudge
  | notStarted f => exact .bind (.pure ()) fun _ => hjudge
  | finished status output errors => exact .bind (h.record _ _ _) fun _ => hjudge

theorem perform [Time τ] (h : r.Refines view plain) (check : Check) :
    Action.Refines (Running.through view) (r.perform check) (plain.perform check) := by
  cases check with
  | composeLogs message =>
    exact .bind (refines_outside (h.endpoint.searchComposeLogs message)) fun found =>
      .bind (h.record _ _ _) fun _ => .ofExcept _
  | logs e => exact .bind (h.ask _ (h.endpoint.searchLogs _)) fun body => .ofExcept _
  | traces e =>
    exact .bind (h.ask _ (h.endpoint.searchTraces _)) fun found => .bind (.ofExcept _) fun ids =>
      .bind (h.fetchTraces _ ids) fun fetched => .ofExcept _
  | metrics e => exact .bind (h.ask _ (h.endpoint.runPromql _)) fun body => .ofExcept _
  | profiles e => exact .bind (h.ask _ (h.endpoint.searchProfiles _)) fun body => .ofExcept _
  | custom e => exact h.runCustom e

theorem buildChecks (h : r.Refines view plain) :
    Action.Refines (Running.through view) r.buildChecks plain.buildChecks := by
  unfold Runner.buildChecks
  rw [h.order]
  exact .bind refines_testCase fun c => refines_applicable _

/-! ## What a run takes and gives back -/

theorem prepareOutput (h : r.Refines view plain) :
    Action.Refines (Running.through view) r.prepareOutput plain.prepareOutput := by
  unfold Runner.prepareOutput Runner.outputDir
  rw [h.settings]
  refine .bind refines_testCase fun c => .bind (refines_ask _) fun present => ?_
  have hmake : Action.Refines (Running.through view) (do
      Bench.change fun files => files.makeDirectories (plain.settings.outputRoot.child c.name)
      Runner.advance fun p => { p with testCase :=
        { p.testCase with outputDir := some (plain.settings.outputRoot.child c.name) } } :
          Action (Running ω τ) Unit) (do
      Bench.change fun files => files.makeDirectories (plain.settings.outputRoot.child c.name)
      Runner.advance fun p => { p with testCase :=
        { p.testCase with outputDir := some (plain.settings.outputRoot.child c.name) } }) :=
    .bind (refines_change _) fun _ => .modify fun _ => rfl
  exact .ite (.bind (refines_change _) fun _ => hmake) hmake

theorem release (h : r.Refines view plain)
    (hclient : client.Refines (Bench.through view) plainClient) :
    Action.Refines (Running.through view) (r.release client) (plain.release plainClient) := by
  have hnone : r.client.isNone = plain.client.isNone := by
    have hgiven := h.client
    generalize r.client = given at hgiven
    generalize plain.client = plainGiven at hgiven
    cases hgiven <;> rfl
  unfold Runner.release
  rw [hnone]
  refine .bind (.modify fun _ => rfl) fun _ => ?_
  exact .ite (refines_outside hclient.close) (.pure ())

end Runner.Refines

theorem Http.Client.Refines.sendInputs {σ ρ : Type} {view : σ → ρ} {client : Http.Client σ}
    {plain : Http.Client ρ} (h : client.Refines view plain) (ports : Ports)
    (inputs : List Input) :
    Action.Refines view (TelemetryCheck.sendInputs client ports inputs)
      (TelemetryCheck.sendInputs plain ports inputs) := by
  induction inputs with
  | nil => exact .pure ()
  | cons input rest ih =>
    exact .bind (.bind (h.request _) fun exchange => .ofExcept _) fun _ => ih

namespace Runner.Refines

open TelemetryCheck.Action Running

variable [Time τ] {view : ω → υ} {r : Runner ω τ} {plain : Runner υ τ}
  {client : Http.Client (Bench ω)} {plainClient : Http.Client (Bench υ)}

theorem round (h : r.Refines view plain) (hclient : client.Refines (Bench.through view) plainClient)
    (check : Check) :
    Action.Refines (Running.through view) (r.round client check)
      (plain.round plainClient check) := by
  have hrest : Action.Refines (Running.through view) (do
      let c ← Runner.testCase
      Runner.outside (sendInputs client c.ports c.definition.input)
      r.perform check : Action (Running ω τ) Unit) (do
      let c ← Runner.testCase
      Runner.outside (sendInputs plainClient c.ports c.definition.input)
      plain.perform check) :=
    .bind refines_testCase fun c => .bind (refines_outside (hclient.sendInputs _ _)) fun _ =>
      h.perform check
  refine .bind h.now fun now => .get_bind fun b => .bind (.modify fun _ => rfl) fun _ => ?_
  exact .ite (.bind (refines_log _ _ _) fun _ => hrest) hrest

/-! ## The checks -/

theorem remainingTime (h : r.Refines view plain) :
    Action.Refines (Running.through view) r.remainingTime plain.remainingTime := by
  refine .bind refines_testCase fun c => ?_
  cases c.deadline with
  | none => exact .pure _
  | some deadline => exact .bind h.now fun _ => .pure _

theorem timeFor (h : r.Refines view plain) (check : Check) :
    Action.Refines (Running.through view) (r.timeFor check) (plain.timeFor check) :=
  .bind h.remainingTime fun _ => .bind refines_testCase fun _ => .pure _

theorem noteRetry (h : r.Refines view plain) (iteration : Nat) (elapsed : τ) (error : Retryable) :
    Action.Refines (Running.through view) (r.noteRetry iteration elapsed error)
      (plain.noteRetry iteration elapsed error) :=
  .bind h.queryLog fun _ => refines_write _ _

theorem plan (h : r.Refines view plain) (hclient : client.Refines (Bench.through view) plainClient)
    (check : Check) (deadline interval : τ) :
    (r.plan client check deadline interval).Refines (Running.through view)
      (plain.plan plainClient check deadline interval) :=
  ⟨h.round hclient check, h.noteRetry, rfl, rfl, rfl⟩

theorem noteResult (span : Nat) (result : CheckResult τ) :
    Action.Refines (Running.through view)
      (Runner.noteResult span result : Action (Running ω τ) Unit)
      (Runner.noteResult span result) :=
  .ite (refines_log _ _ _) (.bind (.modify fun _ => rfl) fun _ => refines_log _ _ _)

theorem runCheck (h : r.Refines view plain)
    (hclient : client.Refines (Bench.through view) plainClient) (check : Check) :
    Action.Refines (Running.through view) (r.runCheck client check)
      (plain.runCheck plainClient check) := by
  unfold Runner.runCheck
  rw [h.rounds]
  refine .bind (h.timeFor check) fun deadline => .bind h.now fun now => ?_
  refine .bind (.modify fun _ => rfl) fun _ => .bind (refines_log _ _ _) fun _ => ?_
  refine .bind refines_testCase fun c => refines_withSpan fun span => ?_
  refine .bind (Polling.refines_poll h.runningClock (h.plan hclient check _ _) _) fun poll => ?_
  exact .bind (.modify fun _ => rfl) fun _ => .bind (noteResult _ _) fun _ => .pure _

theorem runChecks (h : r.Refines view plain)
    (hclient : client.Refines (Bench.through view) plainClient) (checks : List Check) :
    Action.Refines (Running.through view) (r.runChecks client checks)
      (plain.runChecks plainClient checks) := by
  induction checks with
  | nil => exact .pure _
  | cons check rest ih =>
    unfold Runner.runChecks
    rw [h.settings]
    refine .bind (h.runCheck hclient check) fun result => .ite ?_ (.bind ih fun _ => .pure _)
    simp only
    split
    · exact .pure _
    · exact .bind (refines_log _ _ _) fun _ => .pure _

/-! ## Manual debugging -/

theorem feed (h : r.Refines view plain) (hclient : client.Refines (Bench.through view) plainClient)
    (fuel : Nat) :
    Action.Refines (Running.through view) (r.feed client fuel) (plain.feed plainClient fuel) := by
  induction fuel with
  | zero => exact .throw _
  | succ fuel ih =>
    refine .bind refines_testCase fun c => ?_
    refine .bind (.tryCatch (refines_outside (hclient.sendInputs _ _)) fun f => ?_) fun _ => ?_
    · split
      · exact refines_log _ _ _
      · exact .throw _
    · exact .bind (refines_outside (h.clock.sleep _)) fun _ => ih

theorem manualDebug (h : r.Refines view plain)
    (hclient : client.Refines (Bench.through view) plainClient) :
    Action.Refines (Running.through view) (r.manualDebug client)
      (plain.manualDebug plainClient) := by
  unfold Runner.manualDebug
  rw [h.rounds]
  refine .bind refines_testCase fun c => .bind (refines_log _ _ _) fun _ => ?_
  exact .tryCatch (h.feed hclient _) fun f => .ite (refines_log _ _ _) (.throw f)

/-! ## The run -/

theorem work (h : r.Refines view plain)
    (hclient : client.Refines (Bench.through view) plainClient) :
    Action.Refines (Running.through view) (r.work client) (plain.work plainClient) := by
  refine .bind refines_testCase fun c => .ite ?_ ?_
  · exact .bind (h.manualDebug hclient) fun _ => .pure _
  · exact .bind h.buildChecks fun checks => h.runChecks hclient checks

theorem runStarted (h : r.Refines view plain)
    (hclient : client.Refines (Bench.through view) plainClient) :
    Action.Refines (Running.through view) (r.runStarted client) (plain.runStarted plainClient) := by
  refine .bind (refines_outside h.endpoint.start) fun _ => .bind h.now fun now => ?_
  refine .bind (.modify fun _ => rfl) fun _ => .bind refines_testCase fun c => ?_
  exact .bind (refines_log _ _ _) fun _ =>
    .tryFinally (h.work hclient) (refines_outside h.endpoint.stop)

theorem runLogged (h : r.Refines view plain)
    (hclient : client.Refines (Bench.through view) plainClient) :
    Action.Refines (Running.through view) (r.runLogged client) (plain.runLogged plainClient) := by
  unfold Runner.runLogged Runner.logPath Runner.outputDir
  rw [h.settings]
  refine .bind refines_testCase fun c => .bind (refines_change _) fun _ => ?_
  refine refines_withSpan fun _ => .bind (.modify fun _ => rfl) fun _ => .get_bind fun b => ?_
  exact .bind (refines_log _ _ _) fun _ => h.runStarted hclient

theorem runWith (h : r.Refines view plain) (c : TestCase τ)
    (hclient : client.Refines (Bench.through view) plainClient) :
    Action.Refines (Running.through view) (r.runWith c client) (plain.runWith c plainClient) := by
  have hpath : r.logPath c = plain.logPath c := by
    unfold Runner.logPath Runner.outputDir
    rw [h.settings]
  unfold Runner.runWith
  rw [hpath]
  refine .bind (.tryFinally (h.runLogged hclient) (h.release hclient)) fun checks => ?_
  exact .bind (refines_log _ _ _) fun _ => .pure _

/-- A whole run comes to the same end and, seen through the view, leaves the same behind. -/
theorem run (h : r.Refines view plain) :
    Action.Refines (Running.through view) r.run plain.run := by
  refine .bind refines_testCase fun given => .bind (refines_accept given) fun c => ?_
  refine .bind (.modify fun _ => rfl) fun _ => .bind h.prepareOutput fun _ => ?_
  have hgiven := h.client
  generalize r.client = given at hgiven
  generalize plain.client = plainGiven at hgiven
  cases hgiven with
  | some hclient => exact h.runWith c hclient
  | none =>
    exact RefinesTo.bind (refinesTo_outside (h.connect inputOptions)) fun _ _ hclient =>
      h.runWith c hclient

end Runner.Refines
end TelemetryCheck
