import TelemetryCheck.Proofs.Running.Along

/-!
# The course of a run

What a whole run can do is said once, with the states between its parts: the test case is let in,
the output directory is made, a client is found, the query log is opened, the endpoint is started,
the work is done, and all that was taken is given back in the opposite order.
-/

namespace TelemetryCheck

open TelemetryCheck.Action

variable {ω τ α : Type}

/-! ## Journal and files -/

def JournalOnly (b b' : Running ω τ) : Prop := b'.world = b.world ∧ b'.files = b.files

theorem JournalOnly.composable : Composable (JournalOnly : Running ω τ → Running ω τ → Prop) :=
  ⟨fun _ => ⟨rfl, rfl⟩, fun h h' => ⟨h'.1.trans h.1, h'.2.trans h.2⟩⟩

/-- The world is the same; the journal and the files may be others. -/
def SameWorld (b b' : Running ω τ) : Prop := b'.world = b.world

theorem SameWorld.composable : Composable (SameWorld : Running ω τ → Running ω τ → Prop) :=
  ⟨fun _ => rfl, fun h h' => Eq.trans h' h⟩

theorem along_ask {R : Running ω τ → Running ω τ → Prop} (hR : Composable R)
    (question : Files → Except Fault α) : Along R (Bench.ask question) := by
  intro b
  show R b ((Action.ofFault (question b.files)).runFrom b).2
  cases question b.files with
  | error f => exact hR.refl b
  | ok x => exact hR.refl b

theorem along_change (act : Files → Except Fault Files) :
    Along SameWorld (Bench.change act : Action (Running ω τ) Unit) :=
  .bind SameWorld.composable (along_ask SameWorld.composable act) fun _ => .modify fun _ => rfl

theorem along_noteRetry [Time τ] (r : Runner ω τ) (iteration : Nat) (elapsed : τ) (e : Retryable) :
    Along SameWorld (r.noteRetry iteration elapsed e) := by
  intro b
  let file : QueryLog := ⟨b.world.logFile, r.settings.verbose⟩
  show SameWorld b ((file.write _).runFrom b).2
  unfold QueryLog.write
  cases file.file with
  | none => rfl
  | some path => rfl

theorem along_log (level : Level) (name : String) (fields : List (String × Json.Value)) :
    Along JournalOnly (Runner.log level name fields : Action (Running ω τ) Unit) :=
  fun _ => ⟨rfl, rfl⟩

theorem along_accept (c : TestCase τ) :
    Along JournalOnly (c.accept : Action (Running ω τ) (TestCase τ)) := by
  refine .bind JournalOnly.composable (along_ask JournalOnly.composable _) fun findings => ?_
  simp only
  split
  · exact fun _ => ⟨rfl, rfl⟩
  · exact fun _ => ⟨rfl, rfl⟩

theorem accept_eq_ok {c admitted : TestCase τ} {b b' : Running ω τ}
    (h : c.accept.runFrom b = (.ok admitted, b')) : admitted = c.withPorts := by
  obtain ⟨f, -, hf⟩ | ⟨findings, b₁, -, hrest⟩ := bind_cases h
  · cases hf
  simp only at hrest
  split at hrest
  · cases hrest
    rfl
  · cases hrest

/-- A span only writes to the journal; its body decides how it ends. -/
theorem withSpan_cases {name : String} {attributes : List (String × Json.Value)}
    {body : Nat → Action (Running ω τ) α} {b b' : Running ω τ} {ending : Except Failure α}
    (h : (Bench.withSpan name attributes body).runFrom b = (ending, b')) :
    ∃ index b₁ b₂, JournalOnly b b₁ ∧ (body index).runFrom b₁ = (ending, b₂) ∧
      JournalOnly b₂ b' := by
  let b₁ : Running ω τ := { b with journal := b.journal.begin { name, attributes } }
  have hbody : (tryCatch (body b.journal.spans.size) fun failure => do
      unless failure.isInterrupt do
        Bench.amendSpan b.journal.spans.size fun s =>
          (s.setError failure.message).setAttribute "exception.type" (.str failure.kindName)
      throw failure).runFrom b₁ = (ending, b') := h
  rw [runFrom_tryCatch] at hbody
  cases hrun : (body b.journal.spans.size).runFrom b₁ with
  | mk outcome b₂ =>
    rw [hrun] at hbody
    cases outcome with
    | ok x =>
      cases hbody
      exact ⟨_, b₁, _, ⟨rfl, rfl⟩, hrun, rfl, rfl⟩
    | error f =>
      dsimp only at hbody
      split at hbody
      · cases hbody
        exact ⟨_, b₁, _, ⟨rfl, rfl⟩, hrun, rfl, rfl⟩
      · cases hbody
        exact ⟨_, b₁, _, ⟨rfl, rfl⟩, hrun, rfl, rfl⟩

theorem world_outside {a : Action (Bench ω) α} {b b' : Running ω τ} {ending : Except Failure α}
    (h : (Runner.outside a).runFrom b = (ending, b')) :
    b'.world = { b.world with outside := b'.world.outside } := by
  cases h
  rfl

/-! ## Steps that cannot fail -/

section Steps

variable (b : Running ω τ)

theorem runFrom_advance_bind (change : Progress ω τ → Progress ω τ)
    (k : Unit → Action (Running ω τ) α) :
    (Runner.advance change >>= k).runFrom b =
      (k ()).runFrom { b with world := change b.world } := rfl

theorem runFrom_get_bind (k : Running ω τ → Action (Running ω τ) α) :
    (get >>= k).runFrom b = (k b).runFrom b := rfl

theorem runFrom_testCase_bind (k : TestCase τ → Action (Running ω τ) α) :
    (Runner.testCase >>= k).runFrom b = (k b.world.testCase).runFrom b := rfl

theorem runFrom_log_bind (level : Level) (name : String) (fields : List (String × Json.Value))
    (k : Unit → Action (Running ω τ) α) :
    ∃ b₁, JournalOnly b b₁ ∧
      (Runner.log level name fields >>= k).runFrom b = (k ()).runFrom b₁ :=
  ⟨((Runner.log level name fields).runFrom b).2, along_log level name fields b, rfl⟩

end Steps

namespace Runner

variable (r : Runner ω τ)

/-! ## One check -/

section Check

variable [Time τ] {r : Runner ω τ} {client : Http.Client (Bench ω)} {check : Check}
  {b b' : Running ω τ}

theorem timeFor_ok (r : Runner ω τ) (check : Check) (b : Running ω τ) :
    ∃ time b', (r.timeFor check).runFrom b = (.ok time, b') := by
  unfold timeFor remainingTime
  rw [runFrom_bind, runFrom_testCase_bind]
  cases b.world.testCase.deadline with
  | none => exact ⟨_, _, rfl⟩
  | some deadline => exact ⟨_, _, rfl⟩

/-- Once there is a deadline, the clock tells what is left; for an absence it may be less. -/
theorem timeFor_of_deadline {deadline time : τ}
    (hdeadline : b.world.testCase.deadline = some deadline)
    (h : (r.timeFor check).runFrom b = (.ok time, b')) :
    ∃ now, r.now.runFrom b = (.ok now, b') ∧
      time = if check.absent then
          Time.least (Time.greatest 0 (deadline - now)) b.world.testCase.absentTimeout
        else Time.greatest 0 (deadline - now) := by
  unfold timeFor remainingTime at h
  rw [runFrom_bind, runFrom_testCase_bind, hdeadline] at h
  cases h
  exact ⟨_, rfl, rfl⟩

theorem noteResult_cases {span : Nat} {result : CheckResult τ} {noted : Except Failure Unit}
    (h : (noteResult span result).runFrom b = (noted, b')) :
    noted = .ok () ∧ JournalOnly b b' := by
  unfold noteResult at h
  by_cases hpassed : result.passed = true
  · rw [if_pos hpassed] at h
    cases h
    exact ⟨rfl, rfl, rfl⟩
  · rw [if_neg hpassed] at h
    cases h
    exact ⟨rfl, rfl, rfl⟩

/-- A check is polled for the time that is left to it, and comes to the result of the polling. -/
theorem runCheck_cases {ending : Except Failure (CheckResult τ)}
    (h : (r.runCheck client check).runFrom b = (ending, b')) :
    ∃ deadline b₁ now b₂ b₃ interval polled b₄,
      (r.timeFor check).runFrom b = (.ok deadline, b₁) ∧ r.now.runFrom b₁ = (.ok now, b₂) ∧
      Untouched b₂ b₃ ∧
      (Polling.poll r.runningClock (r.plan client check deadline interval) r.rounds).runFrom b₃ =
        (polled, b₄) ∧
      b'.world = b₄.world ∧ ending = polled.map (CheckResult.ofPoll check) := by
  obtain ⟨deadline, b₁, htime⟩ := timeFor_ok r check b
  unfold runCheck at h
  rw [runFrom_bind, htime] at h
  obtain ⟨f, hnow, -⟩ | ⟨now, b₂, hnow, hrest⟩ := bind_cases h
  · cases hnow
  rw [runFrom_advance_bind] at hrest
  obtain ⟨b₃, hb₃, hlog⟩ := runFrom_log_bind _ _ _ _ _
  rw [hlog, runFrom_testCase_bind] at hrest
  obtain ⟨_, b₄, b₅, hb₄, hbody, hb'⟩ := withSpan_cases hrest
  have huntouched : Untouched b₂ b₄ := by
    unfold Untouched
    rw [hb₄.1, hb₃.1]
    exact ⟨rfl, rfl⟩
  obtain ⟨f, hpoll, rfl⟩ | ⟨poll, b₆, hpoll, hrest⟩ := bind_cases hbody
  · exact ⟨deadline, b₁, now, b₂, b₄, _, .error f, b₅, htime, hnow, huntouched, hpoll, hb'.1, rfl⟩
  · obtain ⟨f, hamend, -⟩ | ⟨_, b₇, hamend, hrest⟩ := bind_cases hrest
    · cases hamend
    have hb₇ : b₇.world = b₆.world := by
      cases hamend
      rfl
    obtain ⟨f, hnote, rfl⟩ | ⟨_, b₈, hnote, hrest⟩ := bind_cases hrest
    · cases (noteResult_cases hnote).1
    cases hrest
    have hb₈ := (noteResult_cases hnote).2.1
    exact ⟨deadline, b₁, now, b₂, b₄, _, .ok poll, b₆, htime, hnow, huntouched, hpoll,
      hb'.1.trans (hb₈.trans hb₇), rfl⟩

/-- After a check, the run fails with it, or stops at it because it did not pass, or goes on. -/
theorem runChecks_cons_cases {rest : List Check} {ending : Except Failure (List (CheckResult τ))}
    (h : (r.runChecks client (check :: rest)).runFrom b = (ending, b')) :
    (∃ f, (r.runCheck client check).runFrom b = (.error f, b') ∧ ending = .error f) ∨
      ∃ result b₁, (r.runCheck client check).runFrom b = (.ok result, b₁) ∧
        ((result.passed = false ∧ ending = .ok [result] ∧ b'.world = b₁.world) ∨
          ∃ more, (r.runChecks client rest).runFrom b₁ = (more, b') ∧
            ending = more.map (result :: ·)) := by
  obtain ⟨f, hcheck, rfl⟩ | ⟨result, b₁, hcheck, hrest⟩ := bind_cases h
  · exact .inl ⟨f, hcheck, rfl⟩
  refine .inr ⟨result, b₁, hcheck, ?_⟩
  simp only at hrest
  split at hrest
  · rename_i hstop
    have hfailed : result.passed = false := by
      cases hpassed : result.passed with
      | false => rfl
      | true =>
        rw [hpassed] at hstop
        cases hstop
    refine .inl ⟨hfailed, ?_⟩
    split at hrest
    · cases hrest
      exact ⟨rfl, rfl⟩
    · cases hrest
      exact ⟨rfl, rfl⟩
  · obtain ⟨f, hmore, rfl⟩ | ⟨results, b₂, hmore, hrest⟩ := bind_cases hrest
    · exact .inr ⟨.error f, hmore, rfl⟩
    · cases hrest
      exact .inr ⟨.ok results, hmore, rfl⟩

end Check

def appliesTo (variant : Option String) (check : Check) : Bool :=
  matchesMatrix check.condition variant

theorem appliesTo_iff {variant : Option String} {check : Check} :
    appliesTo variant check = true ↔
      given? check.condition = none ∨ given? check.condition = variant := by
  unfold appliesTo matchesMatrix
  cases given? check.condition with
  | none => exact ⟨fun _ => .inl rfl, fun _ => rfl⟩
  | some condition =>
    show (variant == some condition) = true ↔ _
    rw [beq_iff_eq]
    exact ⟨fun h => .inr h.symm, fun h => h.elim (fun h => nomatch h) Eq.symm⟩

theorem applicable_cases {checks : List Check} {b b' : Running ω τ}
    {ending : Except Failure (List Check)}
    (h : (applicable checks).runFrom b = (ending, b')) :
    b'.world = b.world ∧
      ending = .ok (checks.filter (appliesTo b.world.testCase.matrixVariant)) := by
  induction checks generalizing b ending with
  | nil =>
    cases h
    exact ⟨rfl, rfl⟩
  | cons check rest ih =>
    unfold applicable at h
    rw [runFrom_testCase_bind] at h
    by_cases happlies : appliesTo b.world.testCase.matrixVariant check = true
    · rw [if_pos (by exact happlies)] at h
      rw [List.filter_cons_of_pos happlies]
      obtain ⟨f, hmore, -⟩ | ⟨more, b₁, hmore, hrest⟩ := bind_cases h
      · cases (ih hmore).2
      · cases hrest
        obtain ⟨hworld, hends⟩ := ih hmore
        cases hends
        exact ⟨hworld, rfl⟩
    · rw [if_neg (by exact happlies)] at h
      rw [List.filter_cons_of_neg happlies]
      obtain ⟨b₁, hb₁, hlog⟩ := runFrom_log_bind _ _ _ _ _
      rw [hlog] at h
      obtain ⟨hworld, hends⟩ := ih h
      rw [hb₁.1] at hworld hends
      exact ⟨hworld, hends⟩

def checksFor (c : TestCase τ) : List Check :=
  (c.definition.expected.checksIn r.order).filter (appliesTo c.matrixVariant)

theorem checksFor_ne_nil_iff (c : TestCase τ) :
    r.checksFor c ≠ [] ↔ ∃ kind ∈ r.order, ∃ check ∈ c.definition.expected.checks kind,
      given? check.condition = none ∨ given? check.condition = c.matrixVariant := by
  unfold checksFor
  constructor
  · intro h
    obtain ⟨check, hcheck⟩ := List.exists_mem_of_ne_nil _ h
    obtain ⟨hmem, happlies⟩ := List.mem_filter.mp hcheck
    obtain ⟨kind, hkind, hchecks⟩ := List.mem_flatMap.mp hmem
    exact ⟨kind, hkind, check, hchecks, appliesTo_iff.mp happlies⟩
  · intro h
    obtain ⟨kind, hkind, check, hchecks, happlies⟩ := h
    have hmem : check ∈ c.definition.expected.checksIn r.order :=
      List.mem_flatMap.mpr ⟨kind, hkind, hchecks⟩
    exact List.ne_nil_of_mem (List.mem_filter.mpr ⟨hmem, appliesTo_iff.mpr happlies⟩)

theorem buildChecks_cases {r : Runner ω τ} {b b' : Running ω τ}
    {ending : Except Failure (List Check)} (h : r.buildChecks.runFrom b = (ending, b')) :
    b'.world = b.world ∧ ending = .ok (r.checksFor b.world.testCase) := by
  unfold buildChecks at h
  rw [runFrom_testCase_bind] at h
  exact applicable_cases h

/-- Without manual debugging, the work is to run the checks that apply. -/
theorem work_cases [Time τ] {r : Runner ω τ} {client : Http.Client (Bench ω)} {b b' : Running ω τ}
    {ending : Except Failure (List (CheckResult τ))}
    (hmanual : b.world.testCase.manualDebug = false)
    (h : (r.work client).runFrom b = (ending, b')) :
    ∃ b₁, b₁.world = b.world ∧
      (r.runChecks client (r.checksFor b.world.testCase)).runFrom b₁ = (ending, b') := by
  unfold work at h
  rw [runFrom_testCase_bind, hmanual] at h
  obtain ⟨f, hbuild, -⟩ | ⟨checks, b₁, hbuild, hrest⟩ := bind_cases h
  · cases (buildChecks_cases hbuild).2
  · obtain ⟨hworld, hends⟩ := buildChecks_cases hbuild
    cases hends
    exact ⟨b₁, hworld, hrest⟩

/-! ## The endpoint -/

section Endpoint

variable [Time τ]

/-- The endpoint refuses to start, or the work is done and the endpoint is stopped whatever came of
the work. -/
inductive Started (client : Http.Client (Bench ω)) (b : Running ω τ) :
    Except Failure (List (CheckResult τ)) → Running ω τ → Prop
  | refused {f : Failure} {b' : Running ω τ} :
      (outside r.endpoint.start).runFrom b = (.error f, b') → Started client b (.error f) b'
  | served {b₁ b₂ b₃ b₄ b' : Running ω τ} {now : τ} {stopped : Except Failure Unit}
      {ending : Except Failure (List (CheckResult τ))} :
      (outside r.endpoint.start).runFrom b = (.ok (), b₁) →
      r.now.runFrom b₁ = (.ok now, b₂) →
      b₃.world = { b₂.world with testCase :=
        { b₂.world.testCase with deadline := some (now + b₂.world.testCase.timeout) } } →
      (r.work client).runFrom b₃ = (ending, b₄) →
      (outside r.endpoint.stop).runFrom b₄ = (stopped, b') →
        Started client b (stopped.bind fun _ => ending) b'

theorem started_runStarted {r : Runner ω τ} {client : Http.Client (Bench ω)} {b b' : Running ω τ}
    {ending : Except Failure (List (CheckResult τ))}
    (h : (r.runStarted client).runFrom b = (ending, b')) : r.Started client b ending b' := by
  obtain ⟨f, hstart, rfl⟩ | ⟨_, b₁, hstart, hrest⟩ := bind_cases h
  · exact .refused hstart
  obtain ⟨f, hnow, -⟩ | ⟨now, b₂, hnow, hrest⟩ := bind_cases hrest
  · cases hnow
  rw [runFrom_advance_bind, runFrom_testCase_bind] at hrest
  obtain ⟨b₃, hb₃, hlog⟩ := runFrom_log_bind _ _ _ _ _
  -- the endpoint is stopped whatever came of the work, and a failure to stop it hides that
  rw [hlog, runFrom_tryFinally] at hrest
  cases hwork : (r.work client).runFrom b₃ with
  | mk outcome b₄ =>
    rw [hwork] at hrest
    cases hstop : (outside r.endpoint.stop).runFrom b₄ with
    | mk stopped b₅ =>
      simp only [hstop] at hrest
      have hserved := Started.served hstart hnow hb₃.1 hwork hstop
      cases stopped with
      | error f =>
        cases hrest
        exact hserved
      | ok _ =>
        cases hrest
        exact hserved

/-! ## The query log -/

theorem runLogged_cases {r : Runner ω τ} {client : Http.Client (Bench ω)} {b b' : Running ω τ}
    {ending : Except Failure (List (CheckResult τ))}
    (h : (r.runLogged client).runFrom b = (ending, b')) :
    (∃ f, ending = .error f ∧ b'.world = b.world) ∨
      ∃ b₁ b₂, b₁.world = { b.world with logFile := some (r.logPath b.world.testCase) } ∧
        r.Started client b₁ ending b₂ ∧ b'.world = b₂.world := by
  unfold runLogged at h
  rw [runFrom_testCase_bind] at h
  obtain ⟨f, hopen, rfl⟩ | ⟨_, b₁, hopen, hrest⟩ := bind_cases h
  · exact .inl ⟨f, rfl, (along_change _).of_run hopen⟩
  have hb₁ := (along_change _).of_run hopen
  obtain ⟨-, b₂, b₃, hb₂, hbody, hb'⟩ := withSpan_cases hrest
  rw [runFrom_advance_bind, runFrom_get_bind] at hbody
  obtain ⟨b₄, hb₄, hlog⟩ := runFrom_log_bind _ _ _ _ _
  rw [hlog] at hbody
  refine .inr ⟨b₄, b₃, ?_, started_runStarted hbody, hb'.1⟩
  have hworld : b₂.world = b.world := hb₂.1.trans hb₁
  rw [hb₄.1, hworld]

end Endpoint

/-! ## The output directory and the client -/

def admittedCase (c : TestCase τ) : TestCase τ :=
  { c.withPorts with outputDir := some (r.outputDir c.withPorts) }

def admitted (p : Progress ω τ) : Progress ω τ := { p with testCase := r.admittedCase p.testCase }

/-- The output directory is made, or nothing but files has changed. -/
theorem prepareOutput_cases {r : Runner ω τ} {b b' : Running ω τ} {ending : Except Failure Unit}
    (h : r.prepareOutput.runFrom b = (ending, b')) :
    (∃ f, ending = .error f ∧ b'.world = b.world) ∨
      (ending = .ok () ∧ b'.world = { b.world with testCase :=
        { b.world.testCase with outputDir := some (r.outputDir b.world.testCase) } }) := by
  have hmake : ∀ {b₁ : Running ω τ}, b₁.world = b.world →
      (do Bench.change fun files => files.makeDirectories (r.outputDir b.world.testCase)
          advance fun p => { p with testCase :=
            { p.testCase with outputDir := some (r.outputDir b.world.testCase) } } :
              Action (Running ω τ) Unit).runFrom b₁ = (ending, b') →
        (∃ f, ending = .error f ∧ b'.world = b.world) ∨
          (ending = .ok () ∧ b'.world = { b.world with testCase :=
            { b.world.testCase with outputDir := some (r.outputDir b.world.testCase) } }) := by
    intro b₁ hb₁ hrun
    obtain ⟨f, hfail, rfl⟩ | ⟨_, b₂, hmade, hrest⟩ := bind_cases hrun
    · exact .inl ⟨f, rfl, Eq.trans ((along_change _).of_run hfail) hb₁⟩
    · cases hrest
      refine .inr ⟨rfl, ?_⟩
      have hb₂ : b₂.world = b.world := Eq.trans ((along_change _).of_run hmade) hb₁
      dsimp only
      rw [hb₂]
  unfold prepareOutput at h
  rw [runFrom_testCase_bind] at h
  obtain ⟨f, hfail, rfl⟩ | ⟨present, b₁, hask, hrest⟩ := bind_cases h
  · exact .inl ⟨f, rfl, (along_ask SameWorld.composable _).of_run hfail⟩
  have hasked := (along_ask SameWorld.composable _).of_run hask
  simp only at hrest
  split at hrest
  · obtain ⟨f, hfail, rfl⟩ | ⟨_, b₂, hremove, hrest⟩ := bind_cases hrest
    · exact .inl ⟨f, rfl, Eq.trans ((along_change _).of_run hfail) hasked⟩
    · exact hmake (Eq.trans ((along_change _).of_run hremove) hasked) hrest
  · exact hmake hasked hrest

variable [Time τ]

/-- How a run can go: the test case is refused, or there is no output directory or no client, or
the run goes on with the client that the runner was given or with one of its own. -/
inductive Course (b : Running ω τ) : Except Failure (CaseResult τ) → Running ω τ → Prop
  | refused {f : Failure} {b' : Running ω τ} :
      (b.world.testCase.accept.runFrom b).1 = .error f → JournalOnly b b' →
        Course b (.error f) b'
  | unprepared {f : Failure} {b' : Running ω τ} :
      (b.world.testCase.accept.runFrom b).1 = .ok b.world.testCase.withPorts →
      b'.world = { b.world with testCase := b.world.testCase.withPorts } →
        Course b (.error f) b'
  | unconnected {f : Failure} {b₁ b' : Running ω τ} :
      (b.world.testCase.accept.runFrom b).1 = .ok b.world.testCase.withPorts →
      b₁.world = r.admitted b.world → r.client = none →
      (outside (r.network.connect inputOptions)).runFrom b₁ = (.error f, b') →
        Course b (.error f) b'
  | lent {client : Http.Client (Bench ω)} {b₁ b' : Running ω τ}
      {ending : Except Failure (CaseResult τ)} :
      (b.world.testCase.accept.runFrom b).1 = .ok b.world.testCase.withPorts →
      b₁.world = r.admitted b.world → r.client = some client →
      (r.runWith b.world.testCase.withPorts client).runFrom b₁ = (ending, b') →
        Course b ending b'
  | owned {client : Http.Client (Bench ω)} {b₁ b₂ b' : Running ω τ}
      {ending : Except Failure (CaseResult τ)} :
      (b.world.testCase.accept.runFrom b).1 = .ok b.world.testCase.withPorts →
      b₁.world = r.admitted b.world → r.client = none →
      (outside (r.network.connect inputOptions)).runFrom b₁ = (.ok client, b₂) →
      (r.runWith b.world.testCase.withPorts client).runFrom b₂ = (ending, b') →
        Course b ending b'

theorem course_run {r : Runner ω τ} {b b' : Running ω τ} {ending : Except Failure (CaseResult τ)}
    (h : r.run.runFrom b = (ending, b')) : r.Course b ending b' := by
  unfold run at h
  rw [runFrom_testCase_bind] at h
  obtain ⟨f, haccept, rfl⟩ | ⟨c, b₁, haccept, hrest⟩ := bind_cases h
  · exact .refused (congrArg Prod.fst haccept) ((along_accept _).of_run haccept)
  -- the ports are assigned, and from here on nothing is undone when a step fails
  obtain rfl := accept_eq_ok haccept
  have hjournal := (along_accept _).of_run haccept
  have hadmitted := congrArg Prod.fst haccept
  rw [runFrom_advance_bind] at hrest
  obtain ⟨f, hprepare, rfl⟩ | ⟨_, b₂, hprepare, hrest⟩ := bind_cases hrest
  · obtain ⟨-, -, hworld⟩ | ⟨hok, -⟩ := prepareOutput_cases hprepare
    · refine .unprepared hadmitted ?_
      rw [hworld, hjournal.1]
    · cases hok
  obtain ⟨f, hfail, -⟩ | ⟨-, hworld⟩ := prepareOutput_cases hprepare
  · cases hfail
  have hb₂ : b₂.world = r.admitted b.world := by
    rw [hworld, hjournal.1]
    rfl
  cases hclient : r.client with
  | some client =>
    rw [hclient] at hrest
    exact .lent hadmitted hb₂ hclient hrest
  | none =>
    rw [hclient] at hrest
    obtain ⟨f, hconnect, rfl⟩ | ⟨client, b₃, hconnect, hrest⟩ := bind_cases hrest
    · exact .unconnected hadmitted hb₂ hclient hconnect
    · exact .owned hadmitted hb₂ hclient hconnect hrest

/-! ## With a client -/

/-- What was taken is given back, and the checks make up the result. -/
theorem runWith_cases {r : Runner ω τ} {c : TestCase τ} {client : Http.Client (Bench ω)}
    {b b' : Running ω τ} {ending : Except Failure (CaseResult τ)}
    (h : (r.runWith c client).runFrom b = (ending, b')) :
    ∃ checks b₁ released b₂, (r.runLogged client).runFrom b = (checks, b₁) ∧
      (r.release client).runFrom b₁ = (released, b₂) ∧ JournalOnly b₂ b' ∧
      ending =
        (released.bind fun _ => checks).map fun results => ⟨c.name, results, r.logPath c⟩ := by
  cases hlogged : (r.runLogged client).runFrom b with
  | mk checks b₁ =>
    cases hrelease : (r.release client).runFrom b₁ with
    | mk released b₂ =>
      -- what was taken is given back first, so that a failure of that hides the checks
      have hfinally : (tryFinally (r.runLogged client) (r.release client)).runFrom b =
          (released.bind fun _ => checks, b₂) := by
        rw [runFrom_tryFinally, hlogged]
        simp only [hrelease]
        cases released <;> rfl
      refine ⟨checks, b₁, released, b₂, rfl, hrelease, ?_⟩
      obtain ⟨f, hfail, rfl⟩ | ⟨results, b₃, hok, hrest⟩ := bind_cases h
      · rw [hfinally] at hfail
        obtain ⟨hending, rfl⟩ := Prod.mk.injEq .. ▸ hfail
        rw [hending]
        exact ⟨⟨rfl, rfl⟩, rfl⟩
      · rw [hfinally] at hok
        obtain ⟨hending, rfl⟩ := Prod.mk.injEq .. ▸ hok
        rw [hending]
        cases hrest
        exact ⟨⟨rfl, rfl⟩, rfl⟩

/-- A result is made of what the checks came to, and it is about the test case that was run. -/
theorem runWith_eq_ok {r : Runner ω τ} {c : TestCase τ} {client : Http.Client (Bench ω)}
    {b b' : Running ω τ} {result : CaseResult τ}
    (h : (r.runWith c client).runFrom b = (.ok result, b')) :
    ∃ b₁, (r.runLogged client).runFrom b = (.ok result.checks, b₁) ∧ result.name = c.name := by
  obtain ⟨checks, b₁, released, b₂, hlogged, -, -, hending⟩ := runWith_cases h
  cases released with
  | error f => cases hending
  | ok _ =>
    cases checks with
    | error f => cases hending
    | ok results =>
      cases hending
      exact ⟨b₁, hlogged, rfl⟩

end Runner
end TelemetryCheck
