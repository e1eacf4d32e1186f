import TelemetryCheck.Admission
import TelemetryCheck.Check
import TelemetryCheck.Endpoint
import TelemetryCheck.Heartbeat
import TelemetryCheck.Polling
import TelemetryCheck.QueryLog
import TelemetryCheck.Requests
import TelemetryCheck.Settings

/-!
# Runner

Runs the checks of one test case against an endpoint. Every check is polled: each round first
sends the inputs, then asks a backend and judges the answer. All checks share one deadline, which
counts from the start of the endpoint.
-/

namespace TelemetryCheck

open Json (Value)

/-- A script to run; it sees the ports as environment variables. -/
structure Script (τ : Type) where
  path : Path
  cwd : Path
  env : List (String × String)
  timeout : τ

inductive ScriptEnd
  | finished (status : Int) (output errors : String)
  | timedOut
  | notStarted (fault : Fault)

structure Runner (ω τ : Type) where
  clock : Clock (Bench ω) τ
  endpoint : Endpoint (Bench ω)
  network : Http.Network (Bench ω)
  /-- The client for inputs; without one, each run connects its own. -/
  client : Option (Http.Client (Bench ω)) := none
  runScript : Script τ → Action (Bench ω) ScriptEnd
  settings : Settings := {}
  order : List CheckKind := CheckKind.all
  /-- The most rounds that a loop may take. -/
  rounds : Nat

/-- What changes while a runner is at work, beside the bench. -/
structure Progress (ω τ : Type) where
  outside : ω
  testCase : TestCase τ
  heartbeat : Heartbeat τ
  loud : Bool := false
  logFile : Option Path := none

abbrev Running (ω τ : Type) : Type := Bench (Progress ω τ)

structure CheckResult (τ : Type) where
  check : Check
  passed : Bool
  iterations : Nat
  elapsed : τ
  message : String := ""

structure CaseResult (τ : Type) where
  name : String
  checks : List (CheckResult τ) := []
  logFile : Path

namespace CaseResult

variable {τ : Type}

def passed (r : CaseResult τ) : Bool := r.checks.all (·.passed)

def failures (r : CaseResult τ) : List (CheckResult τ) := r.checks.filter fun c => !c.passed

/-- Fails if any check failed. -/
def confirm (r : CaseResult τ) : Except Failure Unit :=
  if r.failures.isEmpty then .ok ()
  else .error (.checksFailed r.name (r.failures.map (·.message)))

end CaseResult

namespace Runner

variable {ω τ α : Type}

/-- An action on the bench while a runner is at work. -/
def outside (a : Action (Bench ω) α) : Action (Running ω τ) α :=
  a.onPart (fun b => b.withWorld b.world.outside)
    fun inner b => inner.withWorld { b.world with outside := inner.world }

theorem runFrom_outside (a : Action (Bench ω) α) (b : Running ω τ) :
    (outside a).runFrom b =
      ((a.runFrom (b.withWorld b.world.outside)).1,
        (a.runFrom (b.withWorld b.world.outside)).2.withWorld
          { b.world with outside := (a.runFrom (b.withWorld b.world.outside)).2.world }) := rfl

theorem outside_ofExcept (x : Except Failure α) :
    (outside (Action.ofExcept x) : Action (Running ω τ) α) = Action.ofExcept x := by
  cases x <;> rfl

theorem outside_bind {β : Type} (a : Action (Bench ω) α) (k : α → Action (Bench ω) β) :
    (outside (a >>= k) : Action (Running ω τ) β) = outside a >>= fun x => outside (k x) := by
  funext b
  show (outside (a >>= k)).runFrom b = (outside a >>= fun x => outside (k x)).runFrom b
  rw [Action.runFrom_bind, runFrom_outside, runFrom_outside, Action.runFrom_bind]
  cases a.runFrom (b.withWorld b.world.outside) with
  | mk ending after => cases ending <;> rfl

def advance (change : Progress ω τ → Progress ω τ) : Action (Running ω τ) Unit :=
  modify fun b => { b with world := change b.world }

def testCase : Action (Running ω τ) (TestCase τ) := return (← get).world.testCase

def log (level : Level) (name : String) (fields : List (String × Value)) :
    Action (Running ω τ) Unit := do
  let c ← testCase
  Bench.log level name
    (fields ++ [("component", .str "Runner"), ("test_case", .str c.name)])

variable (r : Runner ω τ)

def start [Time τ] (c : TestCase τ) (b : Bench ω) : Running ω τ :=
  let (now, b) := r.clock.now.run b
  b.withWorld ⟨b.world, c, .start (Time.ofSeconds Heartbeat.defaultInterval) now, false, none⟩

def now : Action (Running ω τ) τ := outside (Action.always r.clock.now)

def runningClock : Clock (Running ω τ) τ where
  now := Action.focus (fun b => b.withWorld b.world.outside)
    (fun inner b => inner.withWorld { b.world with outside := inner.world }) r.clock.now
  sleep t := outside (r.clock.sleep t)

theorem run_runningClock_now (b : Running ω τ) :
    r.runningClock.now.run b =
      ((r.clock.now.run (b.withWorld b.world.outside)).1,
        (r.clock.now.run (b.withWorld b.world.outside)).2.withWorld
          { b.world with
            outside := (r.clock.now.run (b.withWorld b.world.outside)).2.world }) := rfl

theorem now_eq_always : r.now = Action.always r.runningClock.now := rfl

def queryLog : Action (Running ω τ) QueryLog :=
  return ⟨(← get).world.logFile, r.settings.verbose⟩

def record (query : String) (response : Option Body) (error : Option String) :
    Action (Running ω τ) Unit := do
  let log ← r.queryLog
  log.record query response error (← get).world.loud

/-- Asks a backend and records what came of it. -/
def ask (query : String) (call : Action (Bench ω) Body) : Action (Running ω τ) Body := do
  let body ← tryCatch (outside call) fun failure => do
    match failure with
    | .retryable ⟨.transient, message, _, response⟩ => r.record query response (some message)
    | _ => pure ()
    throw failure
  r.record query (some body) none
  return body

def fetchTraces (query : String) : List String → Action (Running ω τ) (List Body × List Record)
  | [] => return ([], [])
  | id :: rest => do
    let body ← r.ask ("trace " ++ id) (r.endpoint.traceById id)
    let spans ← Action.ofExcept (Response.traceSpans body (some query))
    let (bodies, more) ← fetchTraces query rest
    return (body :: bodies, spans ++ more)

def scriptFailure [Time τ] (script : String) (timeout : τ) : ScriptEnd → Except Failure Unit
  | .timedOut =>
    .error (.mismatch ("custom check " ++ script ++ " timed out after " ++
      Decimal.fixedText 0 (Time.toSeconds timeout) ++ "s") (some script) none)
  | .notStarted f =>
    .error (.configuration
      { summary := "cannot execute custom check " ++ script ++ ": " ++ f.message })
  | .finished status output errors =>
    if status = 0 then .ok ()
    else
      .error (.mismatch ("custom check " ++ script ++ " exited with status " ++
        Decimal.intText status) (some script) (some (.text (output ++ errors))))

def runCustom [Time τ] (e : CustomCheck) : Action (Running ω τ) Unit := do
  let c ← testCase
  let log ← r.queryLog
  log.write ("running custom check " ++ e.script)
  let script : Script τ :=
    ⟨c.dir ++ Path.ofText e.script, c.dir, c.ports.asEnv, c.timeout⟩
  let ended ← outside (r.runScript script)
  match ended with
  | .finished status output errors =>
    r.record e.script (some (.text (output ++ errors)))
      (some ("exit status " ++ Decimal.intText status))
  | _ => pure ()
  Action.ofExcept (scriptFailure e.script c.timeout ended)

/-- Asks for what a check is about and judges the answer, once. -/
def perform [Time τ] : Check → Action (Running ω τ) Unit
  | .composeLogs message => do
    let found ← outside (r.endpoint.searchComposeLogs message)
    r.record ("compose logs " ++ Text.quoted message)
      (some (.text ("found=" ++ if found then "True" else "False"))) none
    Action.ofExcept (Judge.composeLogs message found)
  | .logs e => do
    let body ← r.ask e.logql (r.endpoint.searchLogs e.logql)
    Action.ofExcept (Judge.logs e body)
  | .traces e => do
    let found ← r.ask e.traceql (r.endpoint.searchTraces e.traceql)
    let ids ← Action.ofExcept (Response.traceIds found (some e.traceql))
    let (bodies, spans) ← r.fetchTraces e.traceql ids
    Action.ofExcept (Judge.traces e (found :: bodies) spans)
  | .metrics e => do
    let query := Promql.replaceVariables e.promql
    let body ← r.ask query (r.endpoint.runPromql query)
    Action.ofExcept (Judge.metrics e body)
  | .profiles e => do
    let body ← r.ask e.query (r.endpoint.searchProfiles e.query)
    Action.ofExcept (Judge.profiles e body)
  | .custom e => r.runCustom e

/-- One round of a check: the inputs, then the check itself. -/
def round [Time τ] (client : Http.Client (Bench ω)) (check : Check) :
    Action (Running ω τ) Unit := do
  let now ← r.now
  let (due, heartbeat) := (← get).world.heartbeat.due now
  advance fun p => { p with heartbeat := heartbeat, loud := due }
  if due then
    log .info "waiting_for_telemetry"
      [("check", .str check.description), ("query", .str check.query)]
  let c ← testCase
  outside (sendInputs client c.ports c.definition.input)
  r.perform check

/-- The time left until the deadline; all of it before the endpoint has started. -/
def remainingTime [Time τ] : Action (Running ω τ) τ := do
  let c ← testCase
  match c.deadline with
  | none => return c.timeout
  | some deadline => return Time.greatest 0 (deadline - (← r.now))

def timeFor [Time τ] (check : Check) : Action (Running ω τ) τ := do
  let remaining ← r.remainingTime
  let c ← testCase
  return if check.absent then Time.least remaining c.absentTimeout else remaining

def noteRetry [Time τ] (iteration : Nat) (elapsed : τ) (error : Retryable) :
    Action (Running ω τ) Unit := do
  let log ← r.queryLog
  log.write ("iteration " ++ Decimal.natText iteration ++ " after " ++
    Decimal.fixedText 1 (Time.toSeconds elapsed) ++ "s: " ++ error.message)

def plan [Time τ] (client : Http.Client (Bench ω)) (check : Check) (deadline interval : τ) :
    Polling.Plan (Running ω τ) τ where
  attempt := r.round client check
  deadline := deadline
  interval := interval
  description := check.description
  onRetry := r.noteRetry

def CheckResult.ofPoll [Time τ] (check : Check) (poll : PollResult τ) : CheckResult τ :=
  ⟨check, poll.passed, poll.iterations, poll.elapsed,
    if poll.passed then "" else poll.overdue.message⟩

def noteResult [Time τ] (span : Nat) (result : CheckResult τ) : Action (Running ω τ) Unit := do
  let description := result.check.description
  if result.passed then
    log .info "check_passed"
      [("check", .str description), ("iterations", .int result.iterations),
        ("elapsed", .float (Decimal.roundTo 3 (Time.toSeconds result.elapsed)))]
  else
    Bench.amendSpan span fun s => s.setError ("deadline exceeded: " ++ description)
    log .error "check_failed" [("check", .str description), ("error", .str result.message)]

/-- Polls a check until it passes or its time is over. -/
def runCheck [Time τ] (client : Http.Client (Bench ω)) (check : Check) :
    Action (Running ω τ) (CheckResult τ) := do
  let deadline ← r.timeFor check
  let now ← r.now
  advance fun p => { p with heartbeat := p.heartbeat.reset now }
  log .info "check_starting"
    [("kind", .str check.kind.text), ("check", .str check.description),
      ("timeout", .float (Time.toSeconds deadline))]
  let interval := (← testCase).definition.pollingInterval
  Bench.withSpan "check"
    [("check.kind", .str check.kind.text), ("check.query", .str check.query)] fun span => do
      let poll ← Polling.poll r.runningClock
        (r.plan client check deadline (Time.ofSeconds interval)) r.rounds
      Bench.amendSpan span fun s => s.setAttribute "check.iterations" (.int poll.iterations)
      let result := CheckResult.ofPoll check poll
      noteResult span result
      return result

/-- Runs checks one after the other; with fail-fast, up to the first that fails. -/
def runChecks [Time τ] (client : Http.Client (Bench ω)) :
    List Check → Action (Running ω τ) (List (CheckResult τ))
  | [] => return []
  | check :: rest => do
    let result ← r.runCheck client check
    if !result.passed && r.settings.failFast then
      unless rest.isEmpty do
        log .warning "remaining_checks_skipped" [("count", .int rest.length)]
      return [result]
    else return result :: (← runChecks client rest)

/-- Leaves out the checks that are for another variant. -/
def applicable : List Check → Action (Running ω τ) (List Check)
  | [] => return []
  | check :: rest => do
    let c ← testCase
    if matchesMatrix check.condition c.matrixVariant then
      return check :: (← applicable rest)
    else
      log .debug "check_skipped"
        [("check", .str check.description),
          ("matrix_condition", check.condition.elim .null .str),
          ("matrix_variant", c.matrixVariant.elim .null .str)]
      applicable rest

def buildChecks : Action (Running ω τ) (List Check) := do
  let c ← testCase
  applicable (c.definition.expected.checksIn r.order)

/-- Seconds between two rounds of inputs that only keep the application busy. -/
def feedingInterval : Float := 1.0

/-- Sends the inputs again and again; an application that does not answer yet is put up with. -/
def feed [Time τ] (client : Http.Client (Bench ω)) : Nat → Action (Running ω τ) Unit
  | 0 => throw .unfinished
  | rounds + 1 => do
    let c ← testCase
    tryCatch (outside (sendInputs client c.ports c.definition.input)) fun failure =>
      match failure with
      | .retryable ⟨.transient, message, _, _⟩ => log .debug "input_failed" [("error", .str message)]
      | failure => throw failure
    outside (r.clock.sleep (Time.ofSeconds feedingInterval))
    feed client rounds

/-- Feeds the application until someone interrupts. -/
def manualDebug [Time τ] (client : Http.Client (Bench ω)) : Action (Running ω τ) Unit := do
  let c ← testCase
  log .info "manual_debug_started"
    [("grafana_url", .str ("http://localhost:" ++ Decimal.natText c.ports.grafana))]
  tryCatch (r.feed client r.rounds) fun failure =>
    if failure.isInterrupt then log .info "manual_debug_stopped" [] else throw failure

def outputDir (c : TestCase τ) : Path := r.settings.outputRoot.child c.name

def logPath (c : TestCase τ) : Path :=
  (r.outputDir c).child ("output-" ++ c.name ++ ".log")

def prepareOutput : Action (Running ω τ) Unit := do
  let c ← testCase
  let directory := r.outputDir c
  if ← Bench.ask fun files => files.isDirectory directory then
    Bench.change fun files => files.removeTree directory
  Bench.change fun files => files.makeDirectories directory
  advance fun p => { p with testCase := { p.testCase with outputDir := some directory } }

/-- What goes on between the start of the endpoint and its stop. -/
def work [Time τ] (client : Http.Client (Bench ω)) :
    Action (Running ω τ) (List (CheckResult τ)) := do
  let c ← testCase
  if c.manualDebug then
    r.manualDebug client
    return []
  else r.runChecks client (← r.buildChecks)

def runStarted [Time τ] (client : Http.Client (Bench ω)) :
    Action (Running ω τ) (List (CheckResult τ)) := do
  outside r.endpoint.start
  let now ← r.now
  advance fun p =>
    { p with testCase := { p.testCase with deadline := some (now + p.testCase.timeout) } }
  log .info "deadline_set" [("timeout", .float (Time.toSeconds (← testCase).timeout))]
  try r.work client
  finally outside r.endpoint.stop

def runLogged [Time τ] (client : Http.Client (Bench ω)) :
    Action (Running ω τ) (List (CheckResult τ)) := do
  let c ← testCase
  let file := r.logPath c
  Bench.change fun files => files.startFile file
  Bench.withSpan "test_case" [("test_case.name", .str c.name)] fun _ => do
    advance fun p => { p with logFile := some file }
    log .info "test_case_starting"
      [("log_file", .str ((← get).files.resolve file).toText)]
    r.runStarted client

def release (client : Http.Client (Bench ω)) : Action (Running ω τ) Unit := do
  advance fun p => { p with logFile := none }
  if r.client.isNone then outside client.close

/-- Runs a test case that was let in with a client, which is given back whatever happens. -/
def runWith [Time τ] (c : TestCase τ) (client : Http.Client (Bench ω)) :
    Action (Running ω τ) (CaseResult τ) := do
  let checks ←
    try r.runLogged client
    finally r.release client
  let result : CaseResult τ := ⟨c.name, checks, r.logPath c⟩
  log .info "test_case_finished"
    [("passed", .bool result.passed), ("checks", .int result.checks.length),
      ("failures", .int result.failures.length)]
  return result

/-- Lets the test case in, runs it and stops the endpoint again, whatever happens. -/
def run [Time τ] : Action (Running ω τ) (CaseResult τ) := do
  let c ← (← testCase).accept
  advance fun p => { p with testCase := c }
  r.prepareOutput
  match r.client with
  | some client => r.runWith c client
  | none => r.runWith c (← outside (r.network.connect inputOptions))

/-- A whole run of a test case, as an action on the bench. -/
def complete [Time τ] (c : TestCase τ) : Action (Bench ω) (CaseResult τ) := ExceptT.mk fun b =>
  let (result, after) := r.run.runFrom (r.start c b)
  (result, after.withWorld after.world.outside)

theorem runFrom_complete [Time τ] (c : TestCase τ) (b : Bench ω) :
    (r.complete c).runFrom b =
      ((r.run.runFrom (r.start c b)).1,
        (r.run.runFrom (r.start c b)).2.withWorld
          (r.run.runFrom (r.start c b)).2.world.outside) := rfl

end Runner
end TelemetryCheck
