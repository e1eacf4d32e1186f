import TelemetryCheck.Proofs.Running.Course
import TelemetryCheck.Proofs.Running.Transparency

/-!
# The lifecycle of a run

Whatever the endpoint, the application and the scripts do, the calls of a run are balanced: an
endpoint that has started is stopped once all work is over, and a client that was connected for the
run is closed.
-/

namespace TelemetryCheck

variable {ω τ α : Type}

/-- Whether a call is part of the work, and not of setting up and taking down. -/
def Interaction.isUse : Interaction τ → Bool
  | .called .. => true
  | .fetched .. => true
  | .asked .. => true
  | .searched .. => true
  | .ran .. => true
  | .slept .. => true
  | .started _ => false
  | .stopped _ => false
  | .connected _ => false
  | .closed _ => false

/-- The calls of a run between finding a client and giving it back. -/
inductive Session : List (Interaction τ) → Prop
  | unstarted : Session []
  | refused (f : Failure) : Session [.started (.error f)]
  | served {uses : List (Interaction τ)} (stopped : Except Failure Unit) :
      (∀ call ∈ uses, call.isUse = true) →
        Session (.started (.ok ()) :: uses ++ [.stopped stopped])

/-- All calls of a run whose test case was let in.  The runner has either to connect a client of its
own, or it was given one. -/
inductive Lifecycle : (connects : Bool) → List (Interaction τ) → Prop
  | unprepared {connects : Bool} : Lifecycle connects []
  | unconnected : Lifecycle true [.connected false]
  | owned {session : List (Interaction τ)} (closed : Except Failure Unit) :
      Session session → Lifecycle true (.connected true :: session ++ [.closed closed])
  | lent {session : List (Interaction τ)} : Session session → Lifecycle false session

/-! ## The work -/

def OnlyUses (b b' : Running (Observed ω τ) τ) : Prop :=
  ∃ uses, seen b' = seen b ++ uses ∧ ∀ call ∈ uses, call.isUse = true

theorem seen_congr {b b' : Running (Observed ω τ) τ}
    (h : b'.world.outside = b.world.outside) : seen b' = seen b := congrArg Observed.seen h

theorem onlyUses_of_seen {b b' : Running (Observed ω τ) τ} (h : seen b' = seen b) :
    OnlyUses b b' :=
  ⟨[], h.trans (List.append_nil _).symm, fun _ h => absurd h List.not_mem_nil⟩

theorem OnlyUses.trans {b₁ b₂ b₃ : Running (Observed ω τ) τ} (h : OnlyUses b₁ b₂)
    (h' : OnlyUses b₂ b₃) : OnlyUses b₁ b₃ := by
  obtain ⟨uses, hseen, huses⟩ := h
  obtain ⟨more, hseen', hmore⟩ := h'
  refine ⟨uses ++ more, ?_, List.forall_mem_append.mpr ⟨huses, hmore⟩⟩
  rw [hseen', hseen, List.append_assoc]

theorem seen_observe (note : Except Failure α → Interaction τ) (a : Action (Bench ω) α)
    {b b' : Running (Observed ω τ) τ} {ending : Except Failure α}
    (h : (Runner.outside (observe note a)).runFrom b = (ending, b')) :
    seen b' = seen b ++ [note ending] := by
  cases h
  rfl

theorem along_observe {note : Except Failure α → Interaction τ}
    (hnote : ∀ outcome, (note outcome).isUse = true) (a : Action (Bench ω) α) :
    Action.Along OnlyUses (Runner.outside (observe note a)) :=
  fun _ => ⟨_, rfl, List.forall_mem_singleton.mpr (hnote _)⟩

theorem Runner.respects_onlyUses (r : Runner ω τ) (client : Http.Client (Bench ω)) :
    r.observed.Respects client.observed OnlyUses where
  quiet h := onlyUses_of_seen (seen_congr h.1)
  trans := OnlyUses.trans
  now _ := onlyUses_of_seen rfl
  request _ := along_observe (fun _ => rfl) _
  runPromql _ := along_observe (fun _ => rfl) _
  searchTraces _ := along_observe (fun _ => rfl) _
  traceById _ := along_observe (fun _ => rfl) _
  searchLogs _ := along_observe (fun _ => rfl) _
  searchProfiles _ := along_observe (fun _ => rfl) _
  searchComposeLogs _ := along_observe (fun _ => rfl) _
  runScript _ := along_observe (fun _ => rfl) _

/-! ## Setting up and taking down -/

variable {r : Runner ω τ} {client : Http.Client (Bench ω)} {b b' : Running (Observed ω τ) τ}

/-- Connecting is noted, and the client that comes of it is an observed one. -/
theorem seen_connect {options : Http.Options}
    {ending : Except Failure (Http.Client (Bench (Observed ω τ)))}
    (h : (Runner.outside (r.observed.network.connect options)).runFrom b = (ending, b')) :
    ∃ outcome : Except Failure (Http.Client (Bench ω)),
      ending = outcome.map Http.Client.observed ∧
      seen b' = seen b ++ [.connected outcome.toBool] := by
  obtain ⟨outcome, hending, hcall⟩ := Runner.wrapped_connect_cases (w := .observing) (r := r) h
  exact ⟨outcome, hending, seen_observe (fun outcome => .connected outcome.toBool) _ hcall⟩

/-- The query log is let go of, and a client of the run's own is closed, which may fail. -/
theorem seen_release {released : Except Failure Unit}
    (h : (r.observed.release client.observed).runFrom b = (released, b')) :
    b'.world.logFile = none ∧
      match r.client with
      | some _ => released = .ok () ∧ seen b' = seen b
      | none => seen b' = seen b ++ [.closed released] := by
  unfold Runner.release at h
  rw [runFrom_advance_bind] at h
  unfold Runner.observed at h
  cases hclient : r.client with
  | some given =>
    rw [hclient] at h
    cases h
    exact ⟨rfl, rfl, rfl⟩
  | none =>
    rw [hclient] at h
    cases h
    exact ⟨rfl, rfl⟩

variable [Time τ]

/-- The endpoint is stopped if and only if it has started, after all work. -/
theorem session_of_started {ending : Except Failure (List (CheckResult τ))}
    (h : r.observed.Started client.observed b ending b') :
    ∃ session, Session session ∧ seen b' = seen b ++ session := by
  cases h with
  | @refused f _ hstart => exact ⟨_, .refused f, seen_observe _ _ hstart⟩
  | @served b₁ b₂ b₃ b₄ _ now stopped ending hstart hnow hdeadline hwork hstop =>
    have hb₁ := seen_observe _ _ hstart
    have hb₂ : seen b₂ = seen b₁ := by
      cases hnow
      rfl
    have hb₃ : seen b₃ = seen b₂ := seen_congr (by rw [hdeadline])
    have hsleep : ∀ t, Action.Along OnlyUses (Runner.outside (r.observed.clock.sleep t)) :=
      fun _ => along_observe (fun _ => rfl) _
    obtain ⟨uses, hb₄, huses⟩ := ((r.respects_onlyUses client).work hsleep).of_run hwork
    have hb' := seen_observe _ _ hstop
    refine ⟨_, .served stopped huses, ?_⟩
    rw [hb', hb₄, hb₃, hb₂, hb₁]
    simp only [List.append_assoc, List.cons_append, List.nil_append]

theorem session_of_runLogged {ending : Except Failure (List (CheckResult τ))}
    (h : (r.observed.runLogged client.observed).runFrom b = (ending, b')) :
    ∃ session, Session session ∧ seen b' = seen b ++ session := by
  obtain ⟨-, -, hworld⟩ | ⟨b₁, b₂, hopened, hstarted, hworld⟩ := Runner.runLogged_cases h
  · refine ⟨[], .unstarted, ?_⟩
    rw [seen_congr (congrArg Progress.outside hworld), List.append_nil]
  · obtain ⟨session, hsession, hb₂⟩ := session_of_started hstarted
    have hb₁ : seen b₁ = seen b := seen_congr (by rw [hopened])
    refine ⟨session, hsession, ?_⟩
    rw [seen_congr (congrArg Progress.outside hworld), hb₂, hb₁]

theorem session_of_runWith {c : TestCase τ} {ending : Except Failure (CaseResult τ)}
    (h : (r.observed.runWith c client.observed).runFrom b = (ending, b')) :
    b'.world.logFile = none ∧ ∃ session, Session session ∧
      match r.client with
      | some _ => seen b' = seen b ++ session
      | none => ∃ closed, seen b' = seen b ++ session ++ [.closed closed] := by
  obtain ⟨checks, b₁, released, b₂, hlogged, hrelease, hjournal, -⟩ := Runner.runWith_cases h
  obtain ⟨session, hsession, hb₁⟩ := session_of_runLogged hlogged
  obtain ⟨hdetached, hclosed⟩ := seen_release hrelease
  have hb' : seen b' = seen b₂ := seen_congr (congrArg Progress.outside hjournal.1)
  rw [hb₁] at hclosed
  rw [hjournal.1, hb']
  refine ⟨hdetached, session, hsession, ?_⟩
  cases hclient : r.client with
  | some given =>
    rw [hclient] at hclosed
    exact hclosed.2
  | none =>
    rw [hclient] at hclosed
    exact ⟨released, hclosed⟩

/-! ## The run -/

def Runner.callsOf (r : Runner ω τ) (c : TestCase τ) (b : Bench ω) : List (Interaction τ) :=
  seen (r.observed.run.runFrom (observing (r.start c b))).2

theorem lifecycle_of_run {ending : Except Failure (CaseResult τ)} (hlog : b.world.logFile = none)
    (h : r.observed.run.runFrom b = (ending, b')) :
    b'.world.logFile = none ∧
      match (b.world.testCase.accept.runFrom b).1 with
      | .error f => ending = .error f ∧ seen b' = seen b ∧ b'.files = b.files
      | .ok _ => ∃ calls, Lifecycle r.client.isNone calls ∧ seen b' = seen b ++ calls := by
  have hadmitted : ∀ {b₁ : Running (Observed ω τ) τ}, b₁.world = r.observed.admitted b.world →
      b₁.world.logFile = none ∧ seen b₁ = seen b := by
    intro b₁ hb₁
    rw [hb₁]
    exact ⟨hlog, seen_congr (by rw [hb₁]; rfl)⟩
  cases Runner.course_run h with
  | refused haccept hjournal =>
    rw [haccept, hjournal.1]
    exact ⟨hlog, rfl, seen_congr (congrArg Progress.outside hjournal.1), hjournal.2⟩
  | unprepared haccept hworld =>
    rw [haccept, hworld]
    have hb' : seen b' = seen b := seen_congr (by rw [hworld])
    exact ⟨hlog, [], .unprepared, hb'.trans (List.append_nil _).symm⟩
  | unconnected haccept hb₁ hclient hconnect =>
    obtain ⟨hlog₁, hseen₁⟩ := hadmitted hb₁
    have hnone : r.client = none := Option.map_eq_none_iff.mp hclient
    obtain ⟨outcome, hfailed, hseen⟩ := seen_connect hconnect
    cases outcome with
    | ok client => cases hfailed
    | error f' =>
      rw [haccept, world_outside hconnect, hnone, ← hseen₁]
      exact ⟨hlog₁, _, .unconnected, hseen⟩
  | @lent client b₁ _ _ haccept hb₁ hclient hrun =>
    obtain ⟨-, hseen₁⟩ := hadmitted hb₁
    obtain ⟨given, hgiven, rfl⟩ := Option.map_eq_some_iff.mp hclient
    obtain ⟨hdetached, session, hsession, hb'⟩ := session_of_runWith hrun
    rw [hgiven] at hb'
    rw [haccept, hgiven, ← hseen₁]
    exact ⟨hdetached, session, .lent hsession, hb'⟩
  | @owned client b₁ b₂ _ _ haccept hb₁ hclient hconnect hrun =>
    obtain ⟨-, hseen₁⟩ := hadmitted hb₁
    have hnone : r.client = none := Option.map_eq_none_iff.mp hclient
    obtain ⟨outcome, hconnected, hb₂⟩ := seen_connect hconnect
    cases outcome with
    | error f => cases hconnected
    | ok connected =>
      cases hconnected
      obtain ⟨hdetached, session, hsession, hb'⟩ := session_of_runWith hrun
      rw [hnone] at hb'
      obtain ⟨closed, hb'⟩ := hb'
      rw [haccept, hnone, ← hseen₁]
      refine ⟨hdetached, _, .owned closed hsession, ?_⟩
      rw [hb', hb₂]
      simp only [Except.toBool, List.append_assoc, List.cons_append, List.nil_append]

/-- However a run ends, whatever is called in it.  A test case that is refused leads to no call and
changes no file.  Otherwise the endpoint is started at most once and before any use, and stopped
once, after all use, if and only if it did start; and a client is closed at the very end if and only
if the run has connected it.  In any case the query log writes to no file any more. -/
theorem lifecycle_balanced (r : Runner ω τ) (c : TestCase τ) (b : Bench ω) :
    (r.run.runFrom (r.start c b)).2.world.logFile = none ∧
      match (c.accept.runFrom (r.start c b)).1 with
      | .error f => (r.run.runFrom (r.start c b)).1 = .error f ∧ r.callsOf c b = [] ∧
          (r.run.runFrom (r.start c b)).2.files = (r.start c b).files
      | .ok _ => Lifecycle r.client.isNone (r.callsOf c b) := by
  have hmirror := Mirrors.run r (observing (r.start c b))
  have haccept : (c.accept.runFrom (r.start c b)).1 =
      (c.accept.runFrom (observing (r.start c b))).1 :=
    congrArg Prod.fst ((Running.refines_accept c : Mirrors _ _) (observing (r.start c b)))
  unfold Runner.callsOf
  rw [unobserved_observing] at hmirror
  rw [hmirror, haccept]
  cases hrun : r.observed.run.runFrom (observing (r.start c b)) with
  | mk ending after =>
    obtain ⟨hdetached, hcalls⟩ := lifecycle_of_run rfl hrun
    have hcase : (observing (r.start c b)).world.testCase = c := rfl
    rw [hcase, seen_observing] at hcalls
    refine ⟨hdetached, ?_⟩
    cases houtcome : (c.accept.runFrom (observing (r.start c b))).1 with
    | error f =>
      rw [houtcome] at hcalls
      exact hcalls
    | ok admitted =>
      rw [houtcome] at hcalls
      obtain ⟨calls, hlifecycle, hseen⟩ := hcalls
      rw [List.nil_append] at hseen
      rw [hseen]
      exact hlifecycle

end TelemetryCheck
