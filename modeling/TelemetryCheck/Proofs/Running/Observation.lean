import TelemetryCheck.Runner

/-!
# Observed runs

Whatever a runner works with can be observed: every call that it makes is noted, in order, with
what came of it, and answered as before.  What an action does is then a statement about the calls
noted during it and its end, and such statements follow the steps of the action.
-/

namespace TelemetryCheck

inductive Query
  | promql (query : String)
  | traces (query : String)
  | trace (id : String)
  | logs (query : String)
  | profiles (query : String)
  deriving Repr, DecidableEq

/-- A call that a runner makes, with what came of it. -/
inductive Interaction (τ : Type)
  | called (call : Http.Call) (outcome : Except Failure Http.Exchange)
  | fetched (url : String) (outcome : Except Failure Http.Exchange)
  | asked (query : Query) (outcome : Except Failure Body)
  | searched (message : String) (outcome : Except Failure Bool)
  | ran (script : Script τ) (outcome : Except Failure ScriptEnd)
  | slept (time : τ) (outcome : Except Failure Unit)
  | started (outcome : Except Failure Unit)
  | stopped (outcome : Except Failure Unit)
  | connected (done : Bool)
  | closed (outcome : Except Failure Unit)

structure Observed (ω τ : Type) where
  world : ω
  seen : List (Interaction τ) := []

section Observing

variable {ω τ α : Type}

def observe (note : Except Failure α → Interaction τ) (a : Action (Bench ω) α) :
    Action (Bench (Observed ω τ)) α := ExceptT.mk fun b =>
  let (outcome, after) := a.runFrom (b.withWorld b.world.world)
  (outcome, after.withWorld ⟨after.world, b.world.seen ++ [note outcome]⟩)

def Http.Client.observed (client : Http.Client (Bench ω)) :
    Http.Client (Bench (Observed ω τ)) where
  request call := observe (.called call) (client.request call)
  get url parameters := observe (.fetched url) (client.get url parameters)
  close := observe .closed client.close

def Endpoint.observed (endpoint : Endpoint (Bench ω)) : Endpoint (Bench (Observed ω τ)) where
  runPromql query := observe (.asked (.promql query)) (endpoint.runPromql query)
  searchTraces query := observe (.asked (.traces query)) (endpoint.searchTraces query)
  traceById id := observe (.asked (.trace id)) (endpoint.traceById id)
  searchLogs query := observe (.asked (.logs query)) (endpoint.searchLogs query)
  searchProfiles query := observe (.asked (.profiles query)) (endpoint.searchProfiles query)
  searchComposeLogs message := observe (.searched message) (endpoint.searchComposeLogs message)
  start := observe .started endpoint.start
  stop := observe .stopped endpoint.stop

/-- Looking at the clock is not noted, waiting is. -/
def Clock.observed (clock : Clock (Bench ω) τ) : Clock (Bench (Observed ω τ)) τ where
  now := Action.focus (fun b => b.withWorld b.world.world)
    (fun inner b => inner.withWorld { b.world with world := inner.world }) clock.now
  sleep time := observe (.slept time) (clock.sleep time)

def Http.Network.observed (network : Http.Network (Bench ω)) :
    Http.Network (Bench (Observed ω τ)) where
  connect options := do
    let client ← observe (fun outcome => .connected outcome.toBool) (network.connect options)
    return client.observed

def Runner.observed (r : Runner ω τ) : Runner (Observed ω τ) τ where
  clock := r.clock.observed
  endpoint := r.endpoint.observed
  network := r.network.observed
  client := r.client.map Http.Client.observed
  runScript script := observe (.ran script) (r.runScript script)
  settings := r.settings
  order := r.order
  rounds := r.rounds

end Observing

def seen {ω τ : Type} (b : Running (Observed ω τ) τ) : List (Interaction τ) :=
  b.world.outside.seen

abbrev Work (ω τ α : Type) : Type := Action (Running (Observed ω τ) τ) α

variable {ω τ α β : Type}

/-- Work on the test case `c` leaves it as it is, and the calls made meanwhile and the end that it
comes to are as `P` says. -/
def Does (c : TestCase τ) (a : Work ω τ α) (P : List (Interaction τ) → Except Failure α → Prop) :
    Prop :=
  ∀ b, b.world.testCase = c →
    (a.runFrom b).2.world.testCase = c ∧
      ∃ calls, seen (a.runFrom b).2 = seen b ++ calls ∧ P calls (a.runFrom b).1

/-- Work that makes no call and always comes to an end. -/
def Quiet (c : TestCase τ) (a : Work ω τ α) : Prop :=
  Does c a fun calls ending => calls = [] ∧ ∃ x, ending = .ok x

variable {c : TestCase τ} {a : Work ω τ α} {k : α → Work ω τ β}
  {P Q : List (Interaction τ) → Except Failure α → Prop}
  {R : List (Interaction τ) → Except Failure β → Prop}

namespace Does

theorem mono (ha : Does c a P) (h : ∀ calls ending, P calls ending → Q calls ending) :
    Does c a Q := by
  intro b hb
  obtain ⟨hcase, calls, hseen, hP⟩ := ha b hb
  exact ⟨hcase, calls, hseen, h _ _ hP⟩

theorem ofExcept {x : Except Failure α} (h : P [] x) :
    Does c (Action.ofExcept x : Work ω τ α) P := by
  intro b hb
  cases x with
  | ok v => exact ⟨hb, [], (List.append_nil _).symm, h⟩
  | error f => exact ⟨hb, [], (List.append_nil _).symm, h⟩

theorem pure {x : α} (h : P [] (.ok x)) : Does c (Pure.pure x : Work ω τ α) P :=
  ofExcept h

theorem throw {f : Failure} (h : P [] (.error f)) :
    Does c (MonadExcept.throw f : Work ω τ α) P :=
  ofExcept h

/-- One action after the other; a failure of the first ends both. -/
theorem bind (ha : Does c a P) (hfail : ∀ calls f, P calls (.error f) → R calls (.error f))
    (hk : ∀ calls x, P calls (.ok x) → Does c (k x) fun more ending => R (calls ++ more) ending) :
    Does c (a >>= k) R := by
  intro b hb
  obtain ⟨hcase, calls, hseen, hP⟩ := ha b hb
  rw [Action.runFrom_bind]
  cases h : a.runFrom b with
  | mk ending after =>
    rw [h] at hcase hseen hP
    cases ending with
    | error f => exact ⟨hcase, calls, hseen, hfail _ _ hP⟩
    | ok x =>
      obtain ⟨hcase', more, hseen', hR⟩ := hk calls x hP after hcase
      refine ⟨hcase', calls ++ more, ?_, hR⟩
      rw [hseen', hseen, List.append_assoc]

/-- After work that makes no call, only what follows counts. -/
theorem quiet_bind (ha : Quiet c a) (hk : ∀ x, Does c (k x) R) : Does c (a >>= k) R := by
  refine bind ha ?_ ?_
  · intro calls f h
    obtain ⟨-, x, hx⟩ := h
    cases hx
  · intro calls x h
    obtain ⟨rfl, -⟩ := h
    exact hk x

/-- A failure that is taken up. -/
theorem tryCatch {handle : Failure → Work ω τ α} (ha : Does c a P)
    (hok : ∀ calls x, P calls (.ok x) → Q calls (.ok x))
    (hhandle : ∀ calls f, P calls (.error f) →
      Does c (handle f) fun more ending => Q (calls ++ more) ending) :
    Does c (MonadExcept.tryCatch a handle) Q := by
  intro b hb
  obtain ⟨hcase, calls, hseen, hP⟩ := ha b hb
  have hrun := Action.runFrom_tryCatch a handle b
  cases h : a.runFrom b with
  | mk ending after =>
    rw [h] at hcase hseen hP hrun
    cases ending with
    | ok x =>
      rw [hrun]
      exact ⟨hcase, calls, hseen, hok _ _ hP⟩
    | error f =>
      rw [hrun]
      obtain ⟨hcase', more, hseen', hQ⟩ := hhandle calls f hP after hcase
      refine ⟨hcase', calls ++ more, ?_, hQ⟩
      rw [hseen', hseen, List.append_assoc]

theorem attempt {a : Work ω τ Unit} {P : List (Interaction τ) → Except Failure Unit → Prop}
    (ha : Does c a P) :
    Does c a.attempt fun calls ending =>
      match ending with
      | .ok none => P calls (.ok ())
      | .ok (some r) => P calls (.error (.retryable r))
      | .error f => P calls (.error f) := by
  intro b hb
  obtain ⟨hcase, calls, hseen, hP⟩ := ha b hb
  rw [Action.runFrom_attempt]
  cases h : a.runFrom b with
  | mk ending after =>
    rw [h] at hcase hseen hP
    cases ending with
    | ok x => exact ⟨hcase, calls, hseen, hP⟩
    | error f => cases f <;> exact ⟨hcase, calls, hseen, hP⟩

/-- An observed call is noted once, with the end that it comes to. -/
theorem observed {note : Except Failure α → Interaction τ} {call : Action (Bench ω) α} :
    Does c (Runner.outside (observe note call) : Work ω τ α) fun calls ending =>
      calls = [note ending] := by
  intro b hb
  exact ⟨hb, [_], rfl, rfl⟩

theorem outside_bind {a : Action (Bench (Observed ω τ)) α}
    {k : α → Action (Bench (Observed ω τ)) β}
    (h : Does c (Runner.outside a >>= fun x => Runner.outside (k x)) R) :
    Does c (Runner.outside (a >>= k)) R := by
  intro b hb
  rw [Runner.outside_bind]
  exact h b hb

theorem outside_ofExcept {x : Except Failure α} (h : P [] x) :
    Does c (Runner.outside (Action.ofExcept x) : Work ω τ α) P := by
  rw [Runner.outside_ofExcept]
  exact ofExcept h

theorem testCase : Does c (Runner.testCase : Work ω τ (TestCase τ)) fun calls ending =>
    calls = [] ∧ ending = .ok c := by
  intro b hb
  subst hb
  exact ⟨rfl, [], (List.append_nil _).symm, rfl, rfl⟩

theorem testCase_bind {k : TestCase τ → Work ω τ β} (hk : Does c (k c) R) :
    Does c (Runner.testCase >>= k) R := by
  refine bind testCase ?_ ?_
  · intro calls f h
    obtain ⟨-, hf⟩ := h
    cases hf
  · intro calls x h
    obtain ⟨rfl, hx⟩ := h
    cases hx
    exact hk

end Does

/-! ## Quiet work

Looking at the clock, writing to the journal and to the query log, and keeping up the progress make
no call.
-/

namespace Quiet

theorem pure (x : α) : Quiet c (Pure.pure x : Work ω τ α) := Does.pure ⟨rfl, x, rfl⟩

theorem bind (ha : Quiet c a) (hk : ∀ x, Quiet c (k x)) : Quiet c (a >>= k) :=
  Does.quiet_bind ha hk

/-- A change of what is not the test case and not the world outside. -/
theorem modify {change : Running (Observed ω τ) τ → Running (Observed ω τ) τ}
    (hcase : ∀ b, (change b).world.testCase = b.world.testCase)
    (hseen : ∀ b, seen (change b) = seen b) :
    Quiet c (modify change : Work ω τ Unit) := by
  intro b hb
  exact ⟨(hcase b).trans hb, [], (hseen b).trans (List.append_nil _).symm, rfl, (), rfl⟩

theorem get : Quiet c (get : Work ω τ (Running (Observed ω τ) τ)) := by
  intro b hb
  exact ⟨hb, [], (List.append_nil _).symm, rfl, b, rfl⟩

theorem advance {change : Progress (Observed ω τ) τ → Progress (Observed ω τ) τ}
    (hcase : ∀ p, (change p).testCase = p.testCase)
    (houtside : ∀ p, (change p).outside = p.outside) :
    Quiet c (Runner.advance change : Work ω τ Unit) :=
  modify (fun b => hcase b.world) fun b => congrArg Observed.seen (houtside b.world)

theorem now (r : Runner ω τ) : Quiet c (r.observed.now : Work ω τ τ) := by
  intro b hb
  exact ⟨hb, [], (List.append_nil _).symm, rfl, _, rfl⟩

theorem clock (r : Runner ω τ) :
    Quiet c (Action.always r.observed.runningClock.now : Work ω τ τ) := by
  intro b hb
  exact ⟨hb, [], (List.append_nil _).symm, rfl, _, rfl⟩

theorem benchLog (level : Level) (name : String) (fields : List (String × Json.Value)) :
    Quiet c (Bench.log level name fields : Work ω τ Unit) :=
  modify (fun _ => rfl) fun _ => rfl

theorem amendSpan (index : Nat) (change : Span → Span) :
    Quiet c (Bench.amendSpan index change : Work ω τ Unit) :=
  modify (fun _ => rfl) fun _ => rfl

theorem testCase : Quiet c (Runner.testCase : Work ω τ (TestCase τ)) :=
  Does.testCase.mono fun _ _ h => ⟨h.1, c, h.2⟩

theorem log (level : Level) (name : String) (fields : List (String × Json.Value)) :
    Quiet c (Runner.log level name fields : Work ω τ Unit) :=
  bind testCase fun _ => benchLog _ _ _

theorem write (file : QueryLog) (text : String) : Quiet c (file.write text : Work ω τ Unit) := by
  unfold QueryLog.write
  cases file.file with
  | none => exact pure ()
  | some path => exact modify (fun _ => rfl) fun _ => rfl

theorem queryLog (r : Runner ω τ) : Quiet c (r.observed.queryLog : Work ω τ QueryLog) :=
  bind get fun _ => pure _

theorem record (r : Runner ω τ) (query : String) (response : Option Body)
    (error : Option String) : Quiet c (r.observed.record query response error : Work ω τ Unit) := by
  refine bind (queryLog r) fun file => bind get fun b => bind (write _ _) fun _ => ?_
  by_cases h : (file.verbose || b.world.loud) = true
  · rw [if_pos h]
    exact benchLog _ _ _
  · rw [if_neg h]
    exact pure ()

theorem noteRetry [Time τ] (r : Runner ω τ) (iteration : Nat) (elapsed : τ) (error : Retryable) :
    Quiet c (r.observed.noteRetry iteration elapsed error : Work ω τ Unit) :=
  bind (queryLog r) fun _ => write _ _

theorem remainingTime [Time τ] (r : Runner ω τ) :
    Quiet c (r.observed.remainingTime : Work ω τ τ) := by
  refine bind testCase fun case => ?_
  cases case.deadline with
  | none => exact pure _
  | some deadline => exact bind (now r) fun _ => pure _

theorem timeFor [Time τ] (r : Runner ω τ) (check : Check) :
    Quiet c (r.observed.timeFor check : Work ω τ τ) :=
  bind (remainingTime r) fun _ => bind testCase fun _ => pure _

theorem noteResult [Time τ] (span : Nat) (result : CheckResult τ) :
    Quiet c (Runner.noteResult span result : Work ω τ Unit) := by
  unfold Runner.noteResult
  by_cases h : result.passed = true
  · rw [if_pos h]
    exact log _ _ _
  · rw [if_neg h]
    exact bind (amendSpan _ _) fun _ => log _ _ _

end Quiet

/-- A span only adds to the journal; its body makes the calls and comes to the end. -/
theorem Does.withSpan {name : String} {attributes : List (String × Json.Value)}
    {body : Nat → Work ω τ α} (hbody : ∀ index, Does c (body index) P) :
    Does c (Bench.withSpan name attributes body) P := by
  refine quiet_bind Quiet.get fun b => quiet_bind (Quiet.modify (fun _ => rfl) fun _ => rfl)
    fun _ => tryCatch (hbody _) (fun _ _ h => h) fun calls f hP => ?_
  have hthrow : Does c (MonadExcept.throw f : Work ω τ α) fun more ending =>
      P (calls ++ more) ending := throw (by rwa [List.append_nil])
  simp only
  split
  · exact hthrow
  · exact quiet_bind (Quiet.amendSpan _ _) fun _ => hthrow

end TelemetryCheck
