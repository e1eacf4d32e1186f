import TelemetryCheck.Proofs.Running.Round
import TelemetryCheck.Proofs.Running.Transparency
import TelemetryCheck.Proofs.Time.Exact

/-!
# The verdict on a check

A check is polled in rounds.  Every round but the last has failed, and the check has passed if and
only if the last one succeeded.  Nothing that was answered in an earlier round counts.
-/

namespace TelemetryCheck

variable {ω τ : Type}

def Interaction.isExchange : Interaction τ → Bool
  | .slept .. => false
  | _ => true

def exchanges (calls : List (Interaction τ)) : List (Interaction τ) :=
  calls.filter Interaction.isExchange

theorem exchanges_append (calls more : List (Interaction τ)) :
    exchanges (calls ++ more) = exchanges calls ++ exchanges more :=
  List.filter_append calls more

variable {c : TestCase τ} {check : Check} {calls : List (Interaction τ)}

/-! ## The calls of one round -/

theorem Answered.isExchange {ports : Ports} {inputs : List Input}
    (h : Answered ports inputs calls) : ∀ call ∈ calls, call.isExchange = true := by
  induction h with
  | nil => exact fun call hcall => absurd hcall List.not_mem_nil
  | cons _ ih => exact List.forall_mem_cons.mpr ⟨rfl, ih⟩

theorem Refused.isExchange {ports : Ports} {inputs : List Input}
    (h : Refused ports inputs calls) : ∀ call ∈ calls, call.isExchange = true := by
  induction h with
  | here _ => exact List.forall_mem_singleton.mpr rfl
  | later _ ih => exact List.forall_mem_cons.mpr ⟨rfl, ih⟩

theorem Tried.isExchange {ids : List String} (h : Tried ids calls) :
    ∀ call ∈ calls, call.isExchange = true := by
  induction h with
  | stop => exact fun call hcall => absurd hcall List.not_mem_nil
  | fetch _ ih => exact List.forall_mem_cons.mpr ⟨rfl, ih⟩

theorem Probed.isExchange (h : Probed c check calls) :
    ∀ call ∈ calls, call.isExchange = true := by
  cases h with
  | traces _ htried => exact List.forall_mem_cons.mpr ⟨rfl, htried.isExchange⟩
  | composeLogs => exact List.forall_mem_singleton.mpr rfl
  | logs => exact List.forall_mem_singleton.mpr rfl
  | search => exact List.forall_mem_singleton.mpr rfl
  | metrics => exact List.forall_mem_singleton.mpr rfl
  | profiles => exact List.forall_mem_singleton.mpr rfl
  | custom => exact List.forall_mem_singleton.mpr rfl

theorem RoundOf.exchanges_eq (h : RoundOf c check calls) : exchanges calls = calls := by
  refine List.filter_eq_self.mpr ?_
  cases h with
  | refused hrefused => exact hrefused.isExchange
  | probed hsent hasked =>
    exact List.forall_mem_append.mpr ⟨hsent.isExchange, hasked.isExchange⟩

/-! ## Rounds one after the other -/

/-- Rounds that come to an end: each failed, or each but the last, which succeeded. -/
inductive Polled (c : TestCase τ) (check : Check) : List (List (Interaction τ)) → Bool → Prop
  | expired : Polled c check [] false
  | passed {round : List (Interaction τ)} :
      RoundOf c check round → Succeeds c check round → Polled c check [round] true
  | again {round : List (Interaction τ)} {rounds : List (List (Interaction τ))} {passed : Bool} :
      RoundOf c check round → ¬Succeeds c check round → Polled c check rounds passed →
        Polled c check (round :: rounds) passed

/-- Waiting between two rounds is no exchange. -/
theorem does_pause [Time τ] (r : Runner ω τ)
    (plan : Polling.Plan (Running (Observed ω τ) τ) τ) (elapsed : τ) :
    Does c (Polling.pause r.observed.runningClock plan elapsed) fun calls _ =>
      exchanges calls = [] := by
  unfold Polling.pause
  simp only
  split
  · refine Does.observed.mono ?_
    intro calls ending hcalls
    subst hcalls
    rfl
  · exact Does.pure rfl

/-- The rounds from some point on.  The induction is on the rounds allowed; a round that fails in a
way that is not tried again ends the polling without a result. -/
theorem does_rounds [Time τ] (r : Runner ω τ) (client : Http.Client (Bench ω)) (check : Check)
    (deadline interval start : τ) (fuel iterations : Nat) (last : Option Retryable) :
    Does c (Polling.rounds r.observed.runningClock
        (r.observed.plan client.observed check deadline interval) start fuel iterations last)
      fun calls ending => ∀ result, ending = .ok result →
        ∃ rounds, exchanges calls = rounds.flatten ∧ Polled c check rounds result.passed ∧
          result.iterations = iterations + rounds.length ∧ (iterations = 0 → rounds ≠ []) := by
  induction fuel generalizing iterations last with
  | zero => exact Does.throw fun result h => nomatch h
  | succ fuel ih =>
    refine Does.quiet_bind (Quiet.clock r) fun now => ?_
    simp only
    split
    · rename_i hover
      refine Does.pure ?_
      intro result hresult
      cases hresult
      exact ⟨[], rfl, .expired, rfl, fun h => absurd hover.1 (by omega)⟩
    refine Does.bind (Does.attempt (does_round r client check)) ?_ ?_
    · intro calls f _ result h
      cases h
    · intro calls end' h
      cases end' with
      | none =>
        obtain ⟨hround, hiff⟩ := h
        refine Does.quiet_bind (Quiet.clock r) fun now' => Does.pure ?_
        intro result hresult
        cases hresult
        refine ⟨[calls], ?_, .passed hround (hiff.mp rfl), rfl, fun _ => List.cons_ne_nil _ _⟩
        rw [List.append_nil, hround.exchanges_eq, List.flatten_singleton]
      | some error =>
        obtain ⟨hround, hiff⟩ := h
        have hnot : ¬Succeeds c check calls := fun hs => nomatch hiff.mpr hs
        -- the failed round, a pause without exchanges, and the rounds that follow
        refine Does.quiet_bind (Quiet.clock r) fun now' => ?_
        refine Does.quiet_bind (Quiet.noteRetry r _ _ _) fun _ => ?_
        refine Does.bind (does_pause r _ _) ?_ ?_
        · intro more f _ result h
          cases h
        · intro paused _ hpaused
          refine (ih (iterations + 1) (some error)).mono fun more ending hmore => ?_
          intro result hresult
          obtain ⟨rounds, hrounds, hpolled, hcount, -⟩ := hmore result hresult
          refine ⟨calls :: rounds, ?_, .again hround hnot hpolled, ?_, fun _ => List.cons_ne_nil _ _⟩
          · rw [exchanges_append, exchanges_append, hround.exchanges_eq, hpaused, hrounds,
              List.nil_append, List.flatten_cons]
          · rw [hcount, List.length_cons]
            omega

theorem does_runCheck [Time τ] (r : Runner ω τ) (client : Http.Client (Bench ω)) (check : Check) :
    Does c (r.observed.runCheck client.observed check) fun calls ending =>
      ∀ result, ending = .ok result →
        ∃ rounds, exchanges calls = rounds.flatten ∧ Polled c check rounds result.passed ∧
          result.iterations = rounds.length ∧ rounds ≠ [] := by
  refine Does.quiet_bind (Quiet.timeFor r check) fun deadline => ?_
  refine Does.quiet_bind (Quiet.now r) fun now => ?_
  refine Does.quiet_bind (Quiet.advance (fun _ => rfl) fun _ => rfl) fun _ => ?_
  refine Does.quiet_bind (Quiet.log _ _ _) fun _ => Does.testCase_bind (Does.withSpan fun span => ?_)
  refine Does.bind (Does.quiet_bind (Quiet.clock r) fun start =>
    does_rounds r client check deadline _ start r.rounds 0 none) ?_ ?_
  · intro calls f _ result h
    cases h
  · intro calls poll hpoll
    obtain ⟨rounds, hrounds, hpolled, hcount, hne⟩ := hpoll poll rfl
    refine Does.quiet_bind (Quiet.amendSpan _ _) fun _ => ?_
    refine Does.quiet_bind (Quiet.noteResult _ _) fun _ => Does.pure ?_
    intro result hresult
    cases hresult
    refine ⟨rounds, ?_, hpolled, hcount.trans (Nat.zero_add _), hne rfl⟩
    rw [List.append_nil, hrounds]

/-! ## The verdict -/

/-- All rounds but the last failed, and the last succeeded if and only if the check passed. -/
theorem Polled.exact {rounds : List (List (Interaction τ))} {passed : Bool}
    (h : Polled c check rounds passed) (hne : rounds ≠ []) :
    ∃ earlier last, rounds = earlier ++ [last] ∧
      (∀ round ∈ earlier, RoundOf c check round ∧ ¬Succeeds c check round) ∧
      RoundOf c check last ∧ (passed = true ↔ Succeeds c check last) := by
  induction h with
  | expired => exact absurd rfl hne
  | @passed round hround hsucceeds =>
    exact ⟨[], round, rfl, fun _ h => absurd h List.not_mem_nil, hround, fun _ => hsucceeds,
      fun _ => rfl⟩
  | @again round rounds passed hround hnot hpolled ih =>
    by_cases hnil : rounds = []
    · subst hnil
      have hpassed : passed = false := by
        cases hpolled
        rfl
      subst hpassed
      exact ⟨[], round, rfl, fun _ h => absurd h List.not_mem_nil, hround, fun h => (nomatch h),
        fun h => absurd h hnot⟩
    · obtain ⟨earlier, last, rfl, hearlier, hlast⟩ := ih hnil
      exact ⟨round :: earlier, last, rfl, List.forall_mem_cons.mpr ⟨⟨hround, hnot⟩, hearlier⟩, hlast⟩

def Runner.callsFor [Time τ] (r : Runner ω τ) (client : Http.Client (Bench ω)) (check : Check)
    (b : Running ω τ) : List (Interaction τ) :=
  seen ((r.observed.runCheck client.observed check).runFrom (observing b)).2

/-- The verdict on a check is exact, whatever is answered in its rounds.  A check passes if and only
if its last round is the first in which every input was answered as expected and the answers of the
backend, all of them decoded, satisfy it.  In no round is a backend asked, or another input called,
after an input that was not answered as expected. -/
theorem verdict_exact [Time τ] (r : Runner ω τ) (client : Http.Client (Bench ω)) (check : Check)
    {b b' : Running ω τ} {result : CheckResult τ}
    (h : (r.runCheck client check).runFrom b = (.ok result, b')) :
    ∃ earlier last,
      exchanges (r.callsFor client check b) = (earlier ++ [last]).flatten ∧
      result.iterations = (earlier ++ [last]).length ∧
      (∀ round ∈ earlier ++ [last], RoundOf b.world.testCase check round) ∧
      (∀ round ∈ earlier, ¬Succeeds b.world.testCase check round) ∧
      (result.passed = true ↔ Succeeds b.world.testCase check last) := by
  -- the observed run comes to the same result, and its notes tell the rounds
  have hmirror := Mirrors.runCheck r client check (observing b)
  rw [unobserved_observing, h, Prod.mk.injEq] at hmirror
  obtain ⟨-, calls, hseen, hcalls⟩ := does_runCheck r client check (observing b) rfl
  rw [seen_observing, List.nil_append] at hseen
  obtain ⟨rounds, hrounds, hpolled, hcount, hne⟩ := hcalls result hmirror.1.symm
  obtain ⟨earlier, last, rfl, hearlier, hlast, hpassed⟩ := hpolled.exact hne
  refine ⟨earlier, last, ?_, hcount, ?_, fun round hround => (hearlier round hround).2, hpassed⟩
  · rw [Runner.callsFor, hseen, hrounds]
  · refine List.forall_mem_append.mpr ⟨fun round hround => (hearlier round hround).1, ?_⟩
    exact List.forall_mem_singleton.mpr hlast

/-! ### An application that is late

Its first answer has another status than the one that is expected.
-/

def lateClient : Http.Client (Bench Nat) where
  request _ := do
    let b ← get
    set { b with world := b.world + 1 }
    return .answered (if b.world = 0 then 503 else 200) (.text "")
  get _ _ := throw .unfinished
  close := pure ()

def lateRunner : Runner Nat Int where
  clock := ⟨pure 0, fun _ => pure ()⟩
  endpoint :=
    { runPromql := fun _ => throw .unfinished
      searchTraces := fun _ => throw .unfinished
      traceById := fun _ => throw .unfinished
      searchLogs := fun _ => throw .unfinished
      searchProfiles := fun _ => throw .unfinished
      searchComposeLogs := fun message => pure (someLineHas message "is ready")
      start := pure ()
      stop := pure () }
  network := ⟨fun _ => pure lateClient⟩
  runScript _ := throw .unfinished
  rounds := 3

def lateCase : TestCase Int :=
  { name := "late", path := ⟨"", ["oats.yaml"]⟩, dir := ⟨"", []⟩, timeout := 5
    absentTimeout := 5, definition := { input := [{ path := "/" }] } }

def lateStart : Running Nat Int :=
  { world := { outside := 0, testCase := lateCase, heartbeat := ⟨10, 0⟩ } }

theorem late_verdict :
    ∃ earlier last,
      exchanges (lateRunner.callsFor lateClient (.composeLogs "ready") lateStart) =
        (earlier ++ [last]).flatten ∧
      (earlier ++ [last]).length = 2 ∧
      (∀ round ∈ earlier, ¬Succeeds lateCase (.composeLogs "ready") round) ∧
      Succeeds lateCase (.composeLogs "ready") last := by
  have hpassed : (match ((lateRunner.runCheck lateClient (.composeLogs "ready")).runFrom
      lateStart).1 with
      | .ok result => result.passed && result.iterations == 2
      | .error _ => false) = true := by
    decide +kernel
  cases hrun : (lateRunner.runCheck lateClient (.composeLogs "ready")).runFrom lateStart with
  | mk ending after =>
    rw [hrun] at hpassed
    cases ending with
    | error f => cases hpassed
    | ok result =>
      rw [Bool.and_eq_true, beq_iff_eq] at hpassed
      obtain ⟨earlier, last, hcalls, hcount, -, hearlier, hlast⟩ :=
        verdict_exact lateRunner lateClient (.composeLogs "ready") hrun
      exact ⟨earlier, last, hcalls, hcount.symm.trans hpassed.2, hearlier, hlast.mp hpassed.1⟩

end TelemetryCheck
