import TelemetryCheck.Proofs.Running.CheckVerdict
import TelemetryCheck.Proofs.Running.Lifecycle

/-!
# Manual debugging

A test case that is debugged by hand only keeps its application busy: the inputs are sent round
after round, with a pause after each, until someone interrupts.  What a round does is written down
first, without the code that sends the inputs; a run is then a number of rounds between the start of
the endpoint and its stop.
-/

namespace TelemetryCheck

variable {ω τ : Type} {ports : Ports} {inputs : List Input}

/-! ## Sending the inputs -/

def Interaction.isProbe : Interaction τ → Bool
  | .fetched .. => true
  | .asked .. => true
  | .searched .. => true
  | .ran .. => true
  | _ => false

theorem Sent.not_probe {calls : List (Interaction τ)} {ending : Except Failure Unit}
    (h : Sent ports inputs calls ending) : ∀ call ∈ calls, call.isProbe = false := by
  induction h with
  | done => exact List.forall_mem_nil _
  | next _ ih => exact List.forall_mem_cons.mpr ⟨rfl, ih⟩
  | unexpected _ _ => exact List.forall_mem_singleton.mpr rfl
  | broken => exact List.forall_mem_singleton.mpr rfl

/-- What sending the inputs may come to without an end of the rounds. -/
def PutUpWith (ending : Except Failure Unit) : Prop := ∀ f, ending = .error f → f.IsTransient

section Sending

variable {c : TestCase τ} (client : Http.Client (Bench ω))

/-- How a round comes to its pause, or fails to. -/
def Attempted (ports : Ports) (inputs : List Input) (calls : List (Interaction τ)) :
    Except Failure Unit → Prop
  | .ok () => ∃ ending, Sent ports inputs calls ending ∧ PutUpWith ending
  | .error f => Sent ports inputs calls (.error f) ∧ ¬f.IsTransient

/-- A failure that may still change is noted and goes no further. -/
theorem does_attempted (ports : Ports) (inputs : List Input) :
    Does c (tryCatch (Runner.outside (sendInputs client.observed ports inputs)) fun failure =>
        match failure with
        | .retryable ⟨.transient, message, _, _⟩ =>
          Runner.log .debug "input_failed" [("error", .str message)]
        | failure => throw failure : Work ω τ Unit)
      (Attempted ports inputs) := by
  refine Does.tryCatch (does_sendInputs client _ _) ?_ ?_
  · exact fun calls _ hsent => ⟨.ok (), hsent, fun _ h => nomatch h⟩
  · intro calls f hsent
    split
    · refine (Quiet.log _ _ _).mono fun more ending hquiet => ?_
      obtain ⟨rfl, -, rfl⟩ := hquiet
      rw [List.append_nil]
      refine ⟨_, hsent, fun f hf => ?_⟩
      cases hf
      exact ⟨_, _, _, rfl⟩
    · rename_i hother
      refine Does.throw ?_
      rw [List.append_nil]
      exact ⟨hsent, fun ⟨message, query, response, hf⟩ => hother message query response hf⟩

end Sending

/-! ## Rounds -/

section Rounds

variable [Time τ]

def pauseCall (outcome : Except Failure Unit) : Interaction τ :=
  .slept (Time.ofSeconds Runner.feedingInterval) outcome

inductive FullRound (ports : Ports) (inputs : List Input) : List (Interaction τ) → Prop
  | paused {sent : List (Interaction τ)} {ending : Except Failure Unit} :
      Sent ports inputs sent ending → PutUpWith ending →
        FullRound ports inputs (sent ++ [pauseCall (.ok ())])

/-- A round that is cut off by a failure, in a call of an input or in the pause. -/
inductive CutRound (ports : Ports) (inputs : List Input) :
    List (Interaction τ) → Failure → Prop
  | sending {sent : List (Interaction τ)} {f : Failure} :
      Sent ports inputs sent (.error f) → ¬f.IsTransient → CutRound ports inputs sent f
  | pausing {sent : List (Interaction τ)} {ending : Except Failure Unit} {f : Failure} :
      Sent ports inputs sent ending → PutUpWith ending →
        CutRound ports inputs (sent ++ [pauseCall (.error f)]) f

/-- Full rounds and then one that is cut off, as far as the rounds that are allowed go. -/
inductive Feeding (ports : Ports) (inputs : List Input) :
    Nat → List (Interaction τ) → Failure → Prop
  | exhausted : Feeding ports inputs 0 [] .unfinished
  | cut {rounds : Nat} {calls : List (Interaction τ)} {f : Failure} :
      CutRound ports inputs calls f → Feeding ports inputs (rounds + 1) calls f
  | next {rounds : Nat} {calls more : List (Interaction τ)} {f : Failure} :
      FullRound ports inputs calls → Feeding ports inputs rounds more f →
        Feeding ports inputs (rounds + 1) (calls ++ more) f

theorem Feeding.not_probe {rounds : Nat} {calls : List (Interaction τ)} {f : Failure}
    (h : Feeding ports inputs rounds calls f) : ∀ call ∈ calls, call.isProbe = false := by
  have hpause : ∀ {sent : List (Interaction τ)} (outcome : Except Failure Unit),
      (∀ call ∈ sent, call.isProbe = false) →
        ∀ call ∈ sent ++ [pauseCall outcome], call.isProbe = false := fun _ hsent =>
    List.forall_mem_append.mpr ⟨hsent, List.forall_mem_singleton.mpr rfl⟩
  induction h with
  | exhausted => exact List.forall_mem_nil _
  | cut hround =>
    cases hround with
    | sending hsent _ => exact hsent.not_probe
    | pausing hsent _ => exact hpause _ hsent.not_probe
  | next hround _ ih =>
    cases hround with
    | paused hsent _ => exact List.forall_mem_append.mpr ⟨hpause _ hsent.not_probe, ih⟩

structure DebuggedWith (ports : Ports) (inputs : List Input) (c : TestCase τ) : Prop where
  manual : c.manualDebug = true
  ports_eq : c.ports = ports
  inputs_eq : c.definition.input = inputs

variable {c : TestCase τ} (r : Runner ω τ) (client : Http.Client (Bench ω))

/-- The rounds go on until one is cut off.  The induction is on the rounds that are allowed. -/
theorem does_feed (rounds : Nat) :
    Does c (r.observed.feed client.observed rounds) fun calls ending =>
      ∃ f, ending = .error f ∧ Feeding c.ports c.definition.input rounds calls f := by
  induction rounds with
  | zero => exact Does.throw ⟨_, rfl, .exhausted⟩
  | succ rounds ih =>
    refine Does.testCase_bind (Does.bind (does_attempted client _ _) ?_ ?_)
    · intro calls f hsent
      exact ⟨f, rfl, .cut (.sending hsent.1 hsent.2)⟩
    · intro calls _ hsent
      obtain ⟨sent, hsent, hput⟩ := hsent
      refine Does.bind Does.observed ?_ ?_
      · intro pause f hpause
        subst hpause
        exact ⟨f, rfl, .cut (.pausing hsent hput)⟩
      · intro pause _ hpause
        subst hpause
        refine ih.mono fun more ending hmore => ?_
        obtain ⟨f, rfl, hfeeding⟩ := hmore
        refine ⟨f, rfl, ?_⟩
        rw [← List.append_assoc]
        exact .next (.paused hsent hput) hfeeding

/-- What feeding comes to: an interrupt is no failure. -/
def afterFeeding {α : Type} (done : α) (f : Failure) : Except Failure α :=
  if f.isInterrupt then .ok done else .error f

theorem does_manualDebug :
    Does c (r.observed.manualDebug client.observed) fun calls ending =>
      ∃ f, Feeding c.ports c.definition.input r.rounds calls f ∧ ending = afterFeeding () f := by
  refine Does.testCase_bind (Does.quiet_bind (Quiet.log _ _ _) fun _ => ?_)
  refine Does.tryCatch (does_feed r client r.rounds) ?_ ?_
  · intro calls _ hfed
    obtain ⟨f, hf, -⟩ := hfed
    cases hf
  · intro calls f hfed
    obtain ⟨g, hg, hfeeding⟩ := hfed
    cases hg
    split
    · rename_i hinterrupt
      refine (Quiet.log _ _ _).mono fun more ending hquiet => ?_
      obtain ⟨rfl, -, rfl⟩ := hquiet
      rw [List.append_nil]
      exact ⟨f, hfeeding, (if_pos hinterrupt).symm⟩
    · rename_i hother
      refine Does.throw ⟨f, ?_, (if_neg hother).symm⟩
      rwa [List.append_nil]

/-- The work is to feed the application, and it comes to no check. -/
theorem does_work (hcase : DebuggedWith ports inputs c) :
    Does c (r.observed.work client.observed) fun calls ending =>
      ∃ f, Feeding ports inputs r.rounds calls f ∧ ending = afterFeeding [] f := by
  obtain ⟨hmanual, rfl, rfl⟩ := hcase
  refine Does.testCase_bind ?_
  rw [if_pos hmanual]
  refine Does.bind (does_manualDebug r client) ?_ ?_
  · intro calls f hfed
    obtain ⟨g, hfeeding, hending⟩ := hfed
    refine ⟨g, hfeeding, ?_⟩
    unfold afterFeeding at hending ⊢
    split at hending
    · cases hending
    · rename_i hother
      cases hending
      exact (if_neg hother).symm
  · intro calls _ hfed
    obtain ⟨g, hfeeding, hending⟩ := hfed
    refine Does.pure ⟨g, by rwa [List.append_nil], ?_⟩
    unfold afterFeeding at hending ⊢
    split at hending
    · rename_i hinterrupt
      exact (if_pos hinterrupt).symm
    · cases hending

end Rounds

/-! ## Runs -/

section Runs

variable [Time τ]

/-- From the start of the endpoint to its stop: what was called, and what it came to. -/
inductive DebugSession (ports : Ports) (inputs : List Input) (rounds : Nat) :
    List (Interaction τ) → Except Failure (List (CheckResult τ)) → Prop
  | unstarted (f : Failure) : DebugSession ports inputs rounds [] (.error f)
  | refused (f : Failure) : DebugSession ports inputs rounds [.started (.error f)] (.error f)
  | served {uses : List (Interaction τ)} {f : Failure} (stopped : Except Failure Unit) :
      Feeding ports inputs rounds uses f →
        DebugSession ports inputs rounds (.started (.ok ()) :: uses ++ [.stopped stopped])
          (stopped.bind fun _ => afterFeeding [] f)

/-- A whole run, of a runner that has to connect a client or that was given one. -/
inductive DebugRun (ports : Ports) (inputs : List Input) (rounds : Nat) : (connects : Bool) →
    List (Interaction τ) → Except Failure (List (CheckResult τ)) → Prop
  | unprepared (connects : Bool) (f : Failure) :
      DebugRun ports inputs rounds connects [] (.error f)
  | unconnected (f : Failure) :
      DebugRun ports inputs rounds true [.connected false] (.error f)
  | owned {session : List (Interaction τ)} {ending : Except Failure (List (CheckResult τ))}
      (closed : Except Failure Unit) : DebugSession ports inputs rounds session ending →
        DebugRun ports inputs rounds true (.connected true :: session ++ [.closed closed])
          (closed.bind fun _ => ending)
  | lent {session : List (Interaction τ)} {ending : Except Failure (List (CheckResult τ))} :
      DebugSession ports inputs rounds session ending →
        DebugRun ports inputs rounds false session ending

/-- Only an interrupt lets a session come to checks, and then there are none. -/
theorem DebugSession.interrupted {rounds : Nat} {calls : List (Interaction τ)}
    {checks : List (CheckResult τ)} (h : DebugSession ports inputs rounds calls (.ok checks)) :
    checks = [] ∧ ∃ uses f, Feeding ports inputs rounds uses f ∧ f.isInterrupt = true ∧
      calls = .started (.ok ()) :: uses ++ [.stopped (.ok ())] := by
  generalize hending : Except.ok checks = ending at h
  cases h with
  | unstarted f => cases hending
  | refused f => cases hending
  | @served uses f stopped hfeeding =>
    cases stopped with
    | error g => cases hending
    | ok _ =>
      replace hending : Except.ok checks = afterFeeding [] f := hending
      unfold afterFeeding at hending
      split at hending
      · rename_i hinterrupt
        cases hending
        exact ⟨rfl, uses, f, hfeeding, hinterrupt, rfl⟩
      · cases hending

theorem DebugSession.not_probe {rounds : Nat} {calls : List (Interaction τ)}
    {ending : Except Failure (List (CheckResult τ))}
    (h : DebugSession ports inputs rounds calls ending) : ∀ call ∈ calls, call.isProbe = false := by
  cases h with
  | unstarted f => exact List.forall_mem_nil _
  | refused f => exact List.forall_mem_singleton.mpr rfl
  | served stopped hfeeding =>
    exact List.forall_mem_append.mpr
      ⟨List.forall_mem_cons.mpr ⟨rfl, hfeeding.not_probe⟩, List.forall_mem_singleton.mpr rfl⟩

theorem DebugRun.not_probe {rounds : Nat} {connects : Bool} {calls : List (Interaction τ)}
    {ending : Except Failure (List (CheckResult τ))}
    (h : DebugRun ports inputs rounds connects calls ending) :
    ∀ call ∈ calls, call.isProbe = false := by
  cases h with
  | unprepared connects f => exact List.forall_mem_nil _
  | unconnected f => exact List.forall_mem_singleton.mpr rfl
  | owned closed hsession =>
    exact List.forall_mem_append.mpr
      ⟨List.forall_mem_cons.mpr ⟨rfl, hsession.not_probe⟩, List.forall_mem_singleton.mpr rfl⟩
  | lent hsession => exact hsession.not_probe

/-- With a client that was given to it, a run that comes to checks is no more than its session. -/
theorem DebugRun.session {rounds : Nat} {calls : List (Interaction τ)}
    {checks : List (CheckResult τ)}
    (h : DebugRun ports inputs rounds false calls (.ok checks)) :
    DebugSession ports inputs rounds calls (.ok checks) := by
  cases h with
  | lent hsession => exact hsession

variable {r : Runner ω τ} {client : Http.Client (Bench ω)} {b b' : Running (Observed ω τ) τ}

theorem debugSession_of_started {ending : Except Failure (List (CheckResult τ))}
    (hcase : DebuggedWith ports inputs b.world.testCase)
    (h : r.observed.Started client.observed b ending b') :
    ∃ session, DebugSession ports inputs r.rounds session ending ∧
      seen b' = seen b ++ session := by
  cases h with
  | @refused f _ hstart => exact ⟨_, .refused f, seen_observe _ _ hstart⟩
  | @served b₁ b₂ b₃ b₄ _ now stopped ending hstart hnow hdeadline hwork hstop =>
    have hb₁ := seen_observe _ _ hstart
    have hb₂ : seen b₂ = seen b₁ := by
      cases hnow
      rfl
    have hb₃ : seen b₃ = seen b₂ := seen_congr (by rw [hdeadline])
    -- starting the endpoint only gives the test case a deadline
    have hcase₃ : DebuggedWith ports inputs b₃.world.testCase := by
      rw [hdeadline, world_outside hnow, world_outside hstart]
      exact ⟨hcase.manual, hcase.ports_eq, hcase.inputs_eq⟩
    obtain ⟨-, uses, hb₄, f, hfeeding, hending⟩ := does_work r client hcase₃ b₃ rfl
    rw [hwork] at hb₄ hending
    have hb' := seen_observe _ _ hstop
    dsimp only at hb₄ hending
    subst hending
    refine ⟨_, .served stopped hfeeding, ?_⟩
    rw [hb', hb₄, hb₃, hb₂, hb₁]
    simp only [List.append_assoc, List.cons_append, List.nil_append]

theorem debugSession_of_runLogged {ending : Except Failure (List (CheckResult τ))}
    (hcase : DebuggedWith ports inputs b.world.testCase)
    (h : (r.observed.runLogged client.observed).runFrom b = (ending, b')) :
    ∃ session, DebugSession ports inputs r.rounds session ending ∧
      seen b' = seen b ++ session := by
  obtain ⟨f, rfl, hworld⟩ | ⟨b₁, b₂, hopened, hstarted, hworld⟩ := Runner.runLogged_cases h
  · refine ⟨[], .unstarted f, ?_⟩
    rw [seen_congr (congrArg Progress.outside hworld), List.append_nil]
  · have hcase₁ : DebuggedWith ports inputs b₁.world.testCase := by
      rw [hopened]
      exact hcase
    obtain ⟨session, hsession, hb₂⟩ := debugSession_of_started hcase₁ hstarted
    have hb₁ : seen b₁ = seen b := seen_congr (by rw [hopened])
    refine ⟨session, hsession, ?_⟩
    rw [seen_congr (congrArg Progress.outside hworld), hb₂, hb₁]

/-- The checks of the result are those that the session came to, unless giving back the client
fails. -/
theorem debugSession_of_runWith {c : TestCase τ} {ending : Except Failure (CaseResult τ)}
    (hcase : DebuggedWith ports inputs b.world.testCase)
    (h : (r.observed.runWith c client.observed).runFrom b = (ending, b')) :
    ∃ session checks released, DebugSession ports inputs r.rounds session checks ∧
      ending.map CaseResult.checks = released.bind (fun _ => checks) ∧
      match r.client with
      | some _ => released = .ok () ∧ seen b' = seen b ++ session
      | none => seen b' = seen b ++ session ++ [.closed released] := by
  obtain ⟨checks, b₁, released, b₂, hlogged, hrelease, hjournal, rfl⟩ := Runner.runWith_cases h
  obtain ⟨session, hsession, hb₁⟩ := debugSession_of_runLogged hcase hlogged
  obtain ⟨-, hclosed⟩ := seen_release hrelease
  have hb' : seen b' = seen b₂ := seen_congr (congrArg Progress.outside hjournal.1)
  rw [hb₁] at hclosed
  refine ⟨session, checks, released, hsession, ?_, by rwa [hb']⟩
  cases released with
  | error f => rfl
  | ok _ => cases checks <;> rfl

theorem debugRun_of_run {ending : Except Failure (CaseResult τ)}
    (hcase : DebuggedWith ports inputs b.world.testCase) {admitted : TestCase τ}
    (haccept : (b.world.testCase.accept.runFrom b).1 = .ok admitted)
    (h : r.observed.run.runFrom b = (ending, b')) :
    ∃ calls, DebugRun ports inputs r.rounds r.client.isNone calls
        (ending.map CaseResult.checks) ∧ seen b' = seen b ++ calls := by
  -- letting a test case in gives it ports if it has none, and an output directory
  have hadmitted : ∀ {b₁ : Running (Observed ω τ) τ}, b₁.world = r.observed.admitted b.world →
      DebuggedWith ports inputs b₁.world.testCase ∧ seen b₁ = seen b := by
    intro b₁ hb₁
    rw [hb₁]
    exact ⟨⟨hcase.manual, hcase.ports_eq, hcase.inputs_eq⟩, seen_congr (by rw [hb₁]; rfl)⟩
  cases Runner.course_run h with
  | refused hrefused _ =>
    rw [haccept] at hrefused
    cases hrefused
  | unprepared _ hworld =>
    have hb' : seen b' = seen b := seen_congr (by rw [hworld])
    exact ⟨[], .unprepared _ _, hb'.trans (List.append_nil _).symm⟩
  | unconnected _ hb₁ hclient hconnect =>
    obtain ⟨-, hseen₁⟩ := hadmitted hb₁
    have hnone : r.client = none := Option.map_eq_none_iff.mp hclient
    obtain ⟨outcome, hfailed, hseen⟩ := seen_connect hconnect
    cases outcome with
    | ok client => cases hfailed
    | error f =>
      rw [hnone, ← hseen₁]
      exact ⟨_, .unconnected _, hseen⟩
  | lent _ hb₁ hclient hrun =>
    obtain ⟨hcase₁, hseen₁⟩ := hadmitted hb₁
    obtain ⟨given, hgiven, rfl⟩ := Option.map_eq_some_iff.mp hclient
    obtain ⟨session, checks, released, hsession, hchecks, hb'⟩ :=
      debugSession_of_runWith hcase₁ hrun
    rw [hgiven] at hb'
    obtain ⟨rfl, hb'⟩ := hb'
    rw [hgiven, hchecks, ← hseen₁]
    exact ⟨session, .lent hsession, hb'⟩
  | @owned _ b₁ b₂ _ _ _ hb₁ hclient hconnect hrun =>
    obtain ⟨hcase₁, hseen₁⟩ := hadmitted hb₁
    have hnone : r.client = none := Option.map_eq_none_iff.mp hclient
    obtain ⟨outcome, hconnected, hb₂⟩ := seen_connect hconnect
    cases outcome with
    | error f => cases hconnected
    | ok connected =>
      cases hconnected
      have hcase₂ : DebuggedWith ports inputs b₂.world.testCase := by
        rw [world_outside hconnect]
        exact ⟨hcase₁.manual, hcase₁.ports_eq, hcase₁.inputs_eq⟩
      obtain ⟨session, checks, released, hsession, hchecks, hb'⟩ :=
        debugSession_of_runWith hcase₂ hrun
      rw [hnone] at hb'
      rw [hnone, hchecks, ← hseen₁]
      refine ⟨_, .owned released hsession, ?_⟩
      rw [hb', hb₂]
      simp only [Except.toBool, List.append_assoc, List.cons_append, List.nil_append]

/-- A run of a valid test case that is debugged by hand, whatever the application answers.  Once the
endpoint has started there are rounds: in each the inputs are sent in order, up to and including the
first that fails, and then comes one pause.  An interrupt in a call of an input or in a pause ends
the rounds; the endpoint is stopped once, and the run comes to no check.  Any other failure but one
that may still change ends the rounds too, and goes on after the endpoint is stopped.  No backend is
asked and no script is run. -/
theorem manualDebug_feeds (r : Runner ω τ) (c : TestCase τ) (b : Bench ω)
    (hmanual : c.manualDebug = true) {admitted : TestCase τ}
    (haccept : (c.accept.runFrom (r.start c b)).1 = .ok admitted) :
    DebugRun c.ports c.definition.input r.rounds r.client.isNone (r.callsOf c b)
        ((r.run.runFrom (r.start c b)).1.map CaseResult.checks) ∧
      ∀ call ∈ r.callsOf c b, call.isProbe = false := by
  have hmirror := Mirrors.run r (observing (r.start c b))
  have hobserved : (c.accept.runFrom (r.start c b)).1 =
      (c.accept.runFrom (observing (r.start c b))).1 :=
    congrArg Prod.fst ((Running.refines_accept c : Mirrors _ _) (observing (r.start c b)))
  have htestCase : (observing (r.start c b)).world.testCase = c := rfl
  have hcase : DebuggedWith c.ports c.definition.input (observing (r.start c b)).world.testCase :=
    htestCase ▸ ⟨hmanual, rfl, rfl⟩
  have hvalid : ((observing (r.start c b)).world.testCase.accept.runFrom
      (observing (r.start c b))).1 = .ok admitted := by
    rw [htestCase, ← hobserved, haccept]
  rw [unobserved_observing] at hmirror
  unfold Runner.callsOf
  cases hrun : r.observed.run.runFrom (observing (r.start c b)) with
  | mk ending after =>
    obtain ⟨calls, hdebug, hseen⟩ := debugRun_of_run hcase hvalid hrun
    rw [seen_observing, List.nil_append] at hseen
    rw [hmirror, hrun, hseen]
    exact ⟨hdebug, hdebug.not_probe⟩

/-! ### An interrupt in the third pause

The application answers the first call with another status than it should.
-/

def feedingRunner : Runner Nat Int where
  clock := ⟨pure 0, fun _ => do
    let b ← get
    if b.world = 3 then throw (.fault .interrupted)⟩
  endpoint :=
    { runPromql := fun _ => throw .unfinished
      searchTraces := fun _ => throw .unfinished
      traceById := fun _ => throw .unfinished
      searchLogs := fun _ => throw .unfinished
      searchProfiles := fun _ => throw .unfinished
      searchComposeLogs := fun _ => throw .unfinished
      start := pure ()
      stop := pure () }
  network := ⟨fun _ => throw .unfinished⟩
  client := some lateClient
  runScript _ := throw .unfinished
  rounds := 5

def feedingCase : TestCase Int :=
  { name := "feeding", path := ⟨"/", ["case", "oats.yaml"]⟩, dir := ⟨"/", ["case"]⟩, timeout := 0
    absentTimeout := 0, manualDebug := true
    definition :=
      { dockerCompose := some {}, input := [{ path := "/" }]
        expected := { logs := [{ logql := "rolls", signal := { regexp := some "rolled" } }] } } }

theorem feeding_interrupted :
    ∃ result uses f,
      (feedingRunner.run.runFrom (feedingRunner.start feedingCase ⟨0, {}, {}⟩)).1 = .ok result ∧
      result.checks = [] ∧ Feeding {} [{ path := "/" }] 5 uses f ∧ f.isInterrupt = true ∧
      feedingRunner.callsOf feedingCase ⟨0, {}, {}⟩ =
        .started (.ok ()) :: uses ++ [.stopped (.ok ())] := by
  have hvalid : (feedingCase.accept.runFrom
      (feedingRunner.start feedingCase ⟨0, {}, {}⟩)).1.toOption.isSome = true := by
    decide +kernel
  have hended : (feedingRunner.run.runFrom
      (feedingRunner.start feedingCase ⟨0, {}, {}⟩)).1.toOption.isSome = true := by
    decide +kernel
  cases haccept : (feedingCase.accept.runFrom (feedingRunner.start feedingCase ⟨0, {}, {}⟩)).1 with
  | error f =>
    rw [haccept] at hvalid
    cases hvalid
  | ok admitted =>
    obtain ⟨hdebug, -⟩ := manualDebug_feeds feedingRunner feedingCase ⟨0, {}, {}⟩ rfl haccept
    cases hending : (feedingRunner.run.runFrom (feedingRunner.start feedingCase ⟨0, {}, {}⟩)).1 with
    | error f =>
      rw [hending] at hended
      cases hended
    | ok result =>
      rw [hending] at hdebug
      obtain ⟨hnone, uses, f, hfeeding, hinterrupt, hcalls⟩ := hdebug.session.interrupted
      exact ⟨result, uses, f, rfl, hnone, hfeeding, hinterrupt, hcalls⟩

end Runs
end TelemetryCheck
