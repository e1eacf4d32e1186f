import TelemetryCheck.Proofs.Running.Coverage

/-!
# The opening of a run

A run comes to what its work comes to, as long as all that it took can be given back.  So it can be
put as an opening, which ends where the work begins, and the work.
-/

namespace TelemetryCheck

open TelemetryCheck.Action

variable {σ ω τ α β : Type}

namespace Action

/-- Two actions that come to the same end from every state, whatever they leave behind. -/
def SameEnding (a a' : Action σ α) : Prop := ∀ s, (a.runFrom s).1 = (a'.runFrom s).1

namespace SameEnding

variable {a a' a'' : Action σ α} {k k' : α → Action σ β}

theorem trans (h : SameEnding a a') (h' : SameEnding a' a'') : SameEnding a a'' :=
  fun s => (h s).trans (h' s)

theorem bind (h : ∀ s x s', a.runFrom s = (.ok x, s') → SameEnding (k x) (k' x)) :
    SameEnding (a >>= k) (a >>= k') := by
  intro s
  rw [runFrom_bind, runFrom_bind]
  cases hrun : a.runFrom s with
  | mk ending s' =>
    cases ending with
    | error f => rfl
    | ok x => exact h s x s' hrun s'

theorem map (h : SameEnding a a') (f : α → β) : SameEnding (f <$> a) (f <$> a') := by
  intro s
  rw [runFrom_map, runFrom_map, h s]

/-- What never fails can be done in any case without a change of the end. -/
theorem tryFinally {b : Action σ Unit} (h : ∀ s, (b.runFrom s).1 = .ok ()) :
    SameEnding (tryFinally a b) a := by
  intro s
  rw [runFrom_tryFinally]
  cases hrun : a.runFrom s with
  | mk ending s' =>
    have hlast := h s'
    cases hb : b.runFrom s' with
    | mk last s'' =>
      rw [hb] at hlast
      dsimp only at hlast
      simp only [hb, hlast]

/-- A span comes to the end of its body. -/
theorem withSpan (name : String) (attributes : List (String × Json.Value))
    (body : Nat → Action (Bench ω) α) :
    SameEnding (Bench.withSpan name attributes body) (do
      let index := (← get).journal.spans.size
      modify fun b => { b with journal := b.journal.begin { name, attributes } }
      body index) := by
  refine bind fun _ _ _ _ => bind fun _ _ _ _ => fun b => ?_
  rw [runFrom_tryCatch]
  rcases hrun : (body _).runFrom b with ⟨f | x, b'⟩
  · -- the span is marked only for a failure that is no interrupt, and the failure goes on
    dsimp only
    split <;> rfl
  · rfl

end SameEnding
end Action

namespace Runner

/-! ## The parts of the opening

None of them changes which checks are to be made.
-/

def KeepsChecks (b b' : Running ω τ) : Prop := SameChecks b.world.testCase b'.world.testCase

theorem KeepsChecks.composable : Composable (KeepsChecks : Running ω τ → Running ω τ → Prop) :=
  ⟨fun _ => ⟨rfl, rfl, rfl⟩,
    fun h h' => ⟨h'.1.trans h.1, h'.2.1.trans h.2.1, h'.2.2.trans h.2.2⟩⟩

theorem keepsChecks_of_world {b b' : Running ω τ} (h : b'.world = b.world) : KeepsChecks b b' := by
  unfold KeepsChecks
  rw [h]
  exact ⟨rfl, rfl, rfl⟩

theorem along_outside (a : Action (Bench ω) α) :
    Along KeepsChecks (outside a : Action (Running ω τ) α) := fun _ => ⟨rfl, rfl, rfl⟩

variable (r : Runner ω τ)

theorem along_prepareOutput : Along KeepsChecks r.prepareOutput := by
  intro b
  cases hrun : r.prepareOutput.runFrom b with
  | mk ending b' =>
    obtain ⟨-, -, hworld⟩ | ⟨-, hworld⟩ := prepareOutput_cases hrun
    · exact keepsChecks_of_world hworld
    · unfold KeepsChecks
      rw [hworld]
      exact ⟨rfl, rfl, rfl⟩

def findClient : Action (Running ω τ) (Http.Client (Bench ω)) :=
  match r.client with
  | some client => pure client
  | none => outside (r.network.connect inputOptions)

theorem along_findClient : Along KeepsChecks r.findClient := by
  unfold findClient
  cases r.client with
  | some client => exact .pure KeepsChecks.composable client
  | none => exact along_outside _

def openLog : Action (Running ω τ) Unit := do
  let c ← testCase
  let file := r.logPath c
  Bench.change fun files => files.startFile file
  modify fun b =>
    { b with journal := b.journal.begin { name := "test_case", attributes :=
      [("test_case.name", .str c.name)] } }
  advance fun p => { p with logFile := some file }
  log .info "test_case_starting" [("log_file", .str ((← get).files.resolve file).toText)]

theorem along_openLog : Along KeepsChecks r.openLog := by
  have hchange : ∀ act, Along KeepsChecks (Bench.change act : Action (Running ω τ) Unit) :=
    fun act b => keepsChecks_of_world (along_change act b)
  exact .get_bind fun b => .bind KeepsChecks.composable (hchange _) fun _ =>
    .bind KeepsChecks.composable (.modify fun _ => ⟨rfl, rfl, rfl⟩) fun _ =>
    .bind KeepsChecks.composable (.modify fun _ => ⟨rfl, rfl, rfl⟩) fun _ =>
    .get_bind fun _ b => keepsChecks_of_world (along_log _ _ _ b).1

variable [Time τ]

def startEndpoint : Action (Running ω τ) Unit := do
  outside r.endpoint.start
  let now ← r.now
  advance fun p =>
    { p with testCase := { p.testCase with deadline := some (now + p.testCase.timeout) } }
  log .info "deadline_set" [("timeout", .float (Time.toSeconds (← testCase).timeout))]

theorem along_startEndpoint : Along KeepsChecks r.startEndpoint :=
  .bind KeepsChecks.composable (along_outside _) fun _ =>
    .bind KeepsChecks.composable (along_outside _) fun _ =>
    .bind KeepsChecks.composable (.modify fun _ => ⟨rfl, rfl, rfl⟩) fun _ =>
    .get_bind fun _ b => keepsChecks_of_world (along_log _ _ _ b).1

def opening : Action (Running ω τ) (Http.Client (Bench ω)) := do
  let c ← (← testCase).accept
  advance fun p => { p with testCase := c }
  r.prepareOutput
  let client ← r.findClient
  r.openLog
  r.startEndpoint
  return client

/-- Stopping the endpoint never fails, nor does closing a client that the run has connected. -/
structure GivesBack : Prop where
  stop : ∀ b, (r.endpoint.stop.runFrom b).1 = .ok ()
  close : r.client = none → ∀ {b client},
    ((r.network.connect inputOptions).runFrom b).1 = .ok client →
      ∀ b, (client.close.runFrom b).1 = .ok ()

/-! ## What a run comes to -/

variable {r}

theorem sameEnding_runStarted (h : r.GivesBack) (client : Http.Client (Bench ω)) :
    SameEnding (r.runStarted client) (do r.startEndpoint; r.work client) := by
  have hstop : ∀ b : Running ω τ, ((outside r.endpoint.stop).runFrom b).1 = .ok () :=
    fun b => h.stop _
  unfold runStarted startEndpoint
  simp only [bind_assoc]
  exact .bind fun _ _ _ _ => .bind fun _ _ _ _ => .bind fun _ _ _ _ => .bind fun _ _ _ _ =>
    .bind fun _ _ _ _ => .tryFinally hstop

theorem sameEnding_runLogged (h : r.GivesBack) (client : Http.Client (Bench ω)) :
    SameEnding (r.runLogged client) (do r.openLog; r.startEndpoint; r.work client) := by
  unfold runLogged openLog
  simp only [bind_assoc]
  refine .bind fun _ c _ _ => .bind fun _ _ _ _ => (SameEnding.withSpan _ _ _).trans ?_
  exact .bind fun _ _ _ _ => .bind fun _ _ _ _ => .bind fun _ _ _ _ => .bind fun _ _ _ _ =>
    .bind fun _ _ _ _ => sameEnding_runStarted h client

def resultOf (c : TestCase τ) (checks : List (CheckResult τ)) : CaseResult τ :=
  ⟨c.name, checks, r.logPath c⟩

theorem sameEnding_runWith (h : r.GivesBack) (c : TestCase τ) {client : Http.Client (Bench ω)}
    (hclose : r.client = none → ∀ b, (client.close.runFrom b).1 = .ok ()) :
    SameEnding (r.runWith c client)
      (r.resultOf c <$> do r.openLog; r.startEndpoint; r.work client) := by
  have hrelease : ∀ b : Running ω τ, ((r.release client).runFrom b).1 = .ok () := by
    intro b
    unfold release
    rw [runFrom_advance_bind]
    cases hgiven : r.client with
    | some given => rfl
    | none => exact hclose hgiven _
  have hfinally := (SameEnding.tryFinally hrelease).trans (sameEnding_runLogged h client)
  refine SameEnding.trans ?_ (hfinally.map (r.resultOf c))
  rw [← bind_pure_comp]
  exact .bind fun _ _ _ _ => fun _ => rfl

/-- A run comes to what its work comes to, once it is opened. -/
theorem sameEnding_run (h : r.GivesBack) :
    SameEnding r.run
      (do let c ← testCase; let client ← r.opening; r.resultOf c <$> r.work client) := by
  have hwith : ∀ (c : TestCase τ) (client : Http.Client (Bench ω)),
      (r.client = none → ∀ b, (client.close.runFrom b).1 = .ok ()) →
        SameEnding (r.runWith c.withPorts client)
          (do r.openLog; r.startEndpoint; r.resultOf c <$> r.work client) := by
    intro c client hclose
    have hrun := sameEnding_runWith h c.withPorts hclose
    simp only [map_bind] at hrun
    exact hrun
  intro b
  unfold run opening
  simp only [bind_assoc, pure_bind]
  rw [runFrom_testCase_bind, runFrom_testCase_bind, runFrom_testCase_bind]
  refine SameEnding.bind (fun _ c _ haccept => ?_) b
  obtain rfl := accept_eq_ok haccept
  refine .bind fun _ _ _ _ => .bind fun _ _ _ _ => ?_
  unfold findClient
  cases hgiven : r.client with
  | some client =>
    have hlent := hwith b.world.testCase client fun hnone => nomatch hgiven.symm.trans hnone
    simp only [pure_bind]
    exact hlent
  | none =>
    refine .bind fun b₁ client _ hconnect => ?_
    exact hwith b.world.testCase client fun _ => h.close hgiven (congrArg Prod.fst hconnect)

/-! ## What the opening leaves -/

/-- The test case is as it was given, but for ports, output directory and deadline. -/
theorem keepsChecks_of_opening {client : Http.Client (Bench ω)} {b b' : Running ω τ}
    (h : r.opening.runFrom b = (.ok client, b')) : KeepsChecks b b' := by
  unfold opening at h
  rw [runFrom_testCase_bind] at h
  obtain ⟨f, -, hf⟩ | ⟨c, b₁, haccept, hrest⟩ := bind_cases h
  · cases hf
  -- letting the test case in gives it ports and nothing else
  obtain rfl := accept_eq_ok haccept
  rw [runFrom_advance_bind] at hrest
  have hopen : Along KeepsChecks (do
      r.prepareOutput
      let client ← r.findClient
      r.openLog
      r.startEndpoint
      return client : Action (Running ω τ) (Http.Client (Bench ω))) :=
    .bind KeepsChecks.composable (along_prepareOutput r) fun _ =>
      .bind KeepsChecks.composable (along_findClient r) fun _ =>
      .bind KeepsChecks.composable (along_openLog r) fun _ =>
      .bind KeepsChecks.composable (along_startEndpoint r) fun _ => .pure KeepsChecks.composable _
  have hrun := hopen.of_run hrest
  refine KeepsChecks.composable.trans ?_ hrun
  exact ⟨rfl, rfl, rfl⟩

/-! ## Up to the first check -/

def upToChecks (r : Runner ω τ) : Action (Running ω τ) (Http.Client (Bench ω) × List Check) := do
  let client ← r.opening
  return (client, ← r.buildChecks)

/-- Without manual debugging, a run comes to what its checks come to. -/
theorem ending_run (h : r.GivesBack) (b : Running ω τ)
    (hmanual : b.world.testCase.manualDebug = false) :
    (r.run.runFrom b).1 =
      match r.upToChecks.runFrom b with
      | (.error f, _) => .error f
      | (.ok (client, checks), b') =>
        ((r.runChecks client checks).runFrom b').1.map (r.resultOf b.world.testCase) := by
  rw [sameEnding_run h b, upToChecks, runFrom_testCase_bind, runFrom_bind, runFrom_bind]
  cases hopen : r.opening.runFrom b with
  | mk ending b₁ =>
    cases ending with
    | error f => rfl
    | ok client =>
      have hb₁ := keepsChecks_of_opening hopen
      dsimp only
      rw [runFrom_bind, runFrom_map, work, runFrom_testCase_bind, hb₁.2.2, hmanual,
        if_neg Bool.false_ne_true, runFrom_bind]
      cases r.buildChecks.runFrom b₁ with
      | mk checks b₂ => cases checks <;> rfl

end Runner
end TelemetryCheck
