import TelemetryCheck.Proofs.Running.CheckVerdict
import TelemetryCheck.Proofs.Running.Lifecycle
import TelemetryCheck.Proofs.Running.Pace

/-!
# One deadline for all checks

Each check is polled for what is left of the time of the test case when it begins.  So all checks of
a run keep to one deadline, which counts from the end of the call that started the endpoint, however
long the rounds before took.
-/

namespace TelemetryCheck

variable {ω τ : Type}

/-! ## What is left of a deadline -/

section Limit

variable [Time τ]

/-- A polling from `start` on that keeps to a deadline, and with an absence to its own time as
well. -/
structure LimitFor (c : TestCase τ) (check : Check) (deadline start limit : τ) : Prop where
  left : limit ≤ Time.greatest 0 (deadline - start)
  absent : check.absent = true → limit ≤ c.absentTimeout
  present : check.absent = false → Time.greatest 0 (deadline - start) ≤ limit

variable [ExactTime τ] {c : TestCase τ} {check : Check} {deadline start limit t : τ}

theorem limitFor_ite (c : TestCase τ) (check : Check) (deadline start : τ) :
    LimitFor c check deadline start (if check.absent then
      Time.least (Time.greatest 0 (deadline - start)) c.absentTimeout
    else Time.greatest 0 (deadline - start)) := by
  by_cases habsent : check.absent = true
  · rw [if_pos habsent]
    refine ⟨?_, fun _ => ?_, fun hpresent => absurd habsent (Bool.eq_false_iff.mp hpresent)⟩
    · rw [ExactTime.le_iff, ExactTime.real_least]
      exact min_le_left _ _
    · rw [ExactTime.le_iff, ExactTime.real_least]
      exact min_le_right _ _
  · rw [if_neg habsent]
    exact ⟨ExactTime.le_refl _, fun h => absurd h habsent, fun _ => ExactTime.le_refl _⟩

namespace LimitFor

/-- Where the time since the start is less than the limit, the deadline has not passed. -/
theorem lt_deadline (h : LimitFor c check deadline start limit) (hstart : start ≤ t)
    (ht : t - start < limit) : t < deadline := by
  have hleft := h.left
  rw [ExactTime.le_iff, ExactTime.real_greatest, ExactTime.real_zero, ExactTime.real_sub] at hleft
  rw [ExactTime.lt_iff, ExactTime.real_sub] at ht
  rw [ExactTime.le_iff] at hstart
  rw [ExactTime.lt_iff]
  obtain hmax | hmax := max_choice (0 : ℝ) (ExactTime.real deadline - ExactTime.real start)
  · rw [hmax] at hleft
    linarith
  · rw [hmax] at hleft
    linarith

theorem lt_absent (h : LimitFor c check deadline start limit) (habsent : check.absent = true)
    (ht : t - start < limit) : t < start + c.absentTimeout := by
  have hlimit := h.absent habsent
  rw [ExactTime.lt_iff, ExactTime.real_sub] at ht
  rw [ExactTime.le_iff] at hlimit
  rw [ExactTime.lt_iff, ExactTime.real_add]
  linarith

theorem ended_le_deadline (h : LimitFor c check deadline start limit) {s : Stamped τ}
    (hs : s.InTime start limit start) : s.ended ≤ deadline := by
  have hbegan := ExactTime.lt_iff.mp (h.lt_deadline hs.le_began hs.began_lt)
  have hafter := ExactTime.le_iff.mp hs.le_began
  have hended := hs.ended_le
  have hleft := h.left
  rw [ExactTime.le_iff, ExactTime.real_greatest, ExactTime.real_zero, ExactTime.real_sub,
    max_eq_right (by linarith)] at hleft
  rw [ExactTime.le_iff, ExactTime.real_add] at hended
  rw [ExactTime.le_iff]
  linarith

theorem ended_le_absent (h : LimitFor c check deadline start limit)
    (habsent : check.absent = true) {s : Stamped τ} (hs : s.InTime start limit start) :
    s.ended ≤ start + c.absentTimeout := by
  have hlimit := h.absent habsent
  have hended := hs.ended_le
  rw [ExactTime.le_iff] at hlimit
  rw [ExactTime.le_iff, ExactTime.real_add] at hended ⊢
  linarith

/-- A presence is only given up when the deadline has passed. -/
theorem deadline_le (h : LimitFor c check deadline start limit) (hpresent : check.absent = false)
    (ht : limit ≤ t - start) : deadline ≤ t := by
  have hlimit := h.present hpresent
  rw [ExactTime.le_iff, ExactTime.real_greatest, ExactTime.real_zero, ExactTime.real_sub] at hlimit
  rw [ExactTime.le_iff, ExactTime.real_sub] at ht
  rw [ExactTime.le_iff]
  have hmax := le_max_right (0 : ℝ) (ExactTime.real deadline - ExactTime.real start)
  linarith

end LimitFor
end Limit

/-! ## One check -/

/-- A check that was run: its rounds, and the result unless a failure ended the run. -/
structure CheckRun (τ : Type) where
  check : Check
  began : τ
  rounds : List (TimedRound τ)
  ended : τ
  result : Option (CheckResult τ)

def CheckRun.stamps (run : CheckRun τ) : List (Stamped τ) := run.rounds.flatMap TimedRound.stamps

variable [Time τ]

/-- A check begins with its first call and ends with its last one.  It is attempted whatever the
clock shows, and attempted again, or slept for, only while there is time: until the deadline, and
with an absence only for the time that absences are given.  A presence is not given up before the
deadline. -/
structure CheckRun.Timely (c : TestCase τ) (deadline : τ) (run : CheckRun τ) : Prop where
  begins : run.stamps.head?.map Stamped.began = some run.began
  ends : run.stamps.getLast?.map Stamped.ended = some run.ended
  isOf : ∀ round ∈ run.rounds, round.IsOf c run.check
  attempted : run.rounds ≠ []
  again : ∀ round ∈ run.rounds.tail, round.began < deadline
  once : deadline ≤ run.began → run.rounds.length = 1
  slept : ∀ round ∈ run.rounds, ∀ s ∈ round.pause, s.ended ≤ deadline
  absent_again : run.check.absent = true →
    ∀ round ∈ run.rounds.tail, round.began < run.began + c.absentTimeout
  absent_slept : run.check.absent = true →
    ∀ round ∈ run.rounds, ∀ s ∈ round.pause, s.ended ≤ run.began + c.absentTimeout
  patient : run.check.absent = false →
    ∀ result, run.result = some result → result.passed = false → deadline ≤ run.ended
  counted : ∀ result, run.result = some result →
    result.check = run.check ∧ result.iterations = run.rounds.length

theorem TimedRound.IsOf.stamps_ne_nil {c : TestCase τ} {check : Check} {round : TimedRound τ}
    (h : round.IsOf c check) : round.stamps ≠ [] := by
  have hne : round.calls ≠ [] := fun hnil => h.made.ne_nil (congrArg (List.map Stamped.call) hnil)
  exact List.append_ne_nil_of_left_ne_nil hne _

section Check

variable [ExactTime τ] {r : Runner ω τ} {client : Http.Client (Bench ω)} {time : ω → τ}
  {check : Check} {deadline : τ} {b b' : Running (Timed ω τ) τ}

/-- Rounds that keep to the limit that a check was given are in time. -/
theorem timely_of_paced {c : TestCase τ} {limit : τ} {rounds : List (TimedRound τ)}
    {ending : Except Failure (PollResult τ)}
    (hlimit : LimitFor c check deadline (timeOf time b) limit)
    (hpasses : Passes time b (rounds.flatMap TimedRound.stamps) b')
    (hpaced : Paced c check (timeOf time b) limit 0 (timeOf time b) rounds) (hne : rounds ≠ [])
    (hresult : ∀ result, ending = .ok result → result.iterations = 0 + rounds.length ∧
      (result.passed = false → limit ≤ timeOf time b' - timeOf time b)) :
    (⟨check, timeOf time b, rounds, timeOf time b',
      (ending.map (Runner.CheckResult.ofPoll check)).toOption⟩ : CheckRun τ).Timely c deadline := by
  have hagain : ∀ round ∈ rounds.tail, timeOf time b ≤ round.began ∧
      round.began - timeOf time b < limit := fun round hround =>
    ⟨hpaced.began_le round (List.mem_of_mem_tail hround),
      hpaced.again round (List.drop_one ▸ hround)⟩
  have hstamps : rounds.flatMap TimedRound.stamps ≠ [] := by
    obtain ⟨first, hfirst⟩ := List.exists_mem_of_ne_nil _ hne
    obtain ⟨s, hs⟩ := List.exists_mem_of_ne_nil _ (hpaced.isOf first hfirst).stamps_ne_nil
    exact List.ne_nil_of_mem (List.mem_flatMap.mpr ⟨first, hfirst, hs⟩)
  have htold : ∀ result, (ending.map (Runner.CheckResult.ofPoll check)).toOption = some result →
      ∃ poll, ending = .ok poll ∧ result = Runner.CheckResult.ofPoll check poll := by
    intro result h
    cases ending with
    | error f => cases h
    | ok poll =>
      cases h
      exact ⟨poll, rfl, rfl⟩
  constructor
  case begins => exact hpasses.contiguous.head_eq hstamps
  case ends => exact hpasses.contiguous.last_eq hstamps
  case isOf => exact hpaced.isOf
  case attempted => exact hne
  case again =>
    intro round hround
    exact hlimit.lt_deadline (hagain round hround).1 (hagain round hround).2
  case once =>
    intro hlate
    -- another round would begin before the deadline and not before the check
    cases rounds with
    | nil => exact absurd rfl hne
    | cons first rest =>
      cases rest with
      | nil => rfl
      | cons second _ =>
        obtain ⟨hafter, hbefore⟩ := hagain second List.mem_cons_self
        have hlt := ExactTime.lt_iff.mp (hlimit.lt_deadline hafter hbefore)
        have hle := ExactTime.le_iff.mp (ExactTime.le_trans hlate hafter)
        exact absurd hlt (not_lt.mpr hle)
  case slept =>
    intro round hround s hs
    exact hlimit.ended_le_deadline (hpaced.pause_inTime round hround s hs)
  case absent_again =>
    intro habsent round hround
    exact hlimit.lt_absent habsent (hagain round hround).2
  case absent_slept =>
    intro habsent round hround s hs
    exact hlimit.ended_le_absent habsent (hpaced.pause_inTime round hround s hs)
  case patient =>
    intro hpresent result h hfailed
    obtain ⟨poll, hending, rfl⟩ := htold result h
    exact hlimit.deadline_le hpresent ((hresult poll hending).2 hfailed)
  case counted =>
    intro result h
    obtain ⟨poll, hending, rfl⟩ := htold result h
    exact ⟨rfl, (hresult poll hending).1.trans (Nat.zero_add _)⟩

theorem timely_runCheck (hkeeps : r.KeepsTime time) (hrounds : 0 < r.rounds)
    (hclient : ∀ call, Forward time (client.request call))
    (hdeadline : b.world.testCase.deadline = some deadline)
    {ending : Except Failure (CheckResult τ)}
    (h : ((r.timed time).runCheck (client.timed time) check).runFrom b = (ending, b')) :
    ∃ run : CheckRun τ, run.check = check ∧ run.result = ending.toOption ∧
      run.Timely b.world.testCase deadline ∧ Passes time b run.stamps b' := by
  obtain ⟨limit, b₁, now, b₂, b₃, interval, polled, b₄, htime, hnow, hb₃, hpoll, hb', rfl⟩ :=
    Runner.runCheck_cases h
  obtain ⟨first, hfirst, hlimit⟩ := Runner.timeFor_of_deadline hdeadline htime
  obtain ⟨rfl, hstill₁⟩ := timed_look hkeeps hfirst
  obtain ⟨-, hstill₂⟩ := timed_look hkeeps hnow
  have hstill₃ : Still time b b₃ := (hstill₁.trans hstill₂).trans hb₃.still
  -- the polling looks at the clock once more before its first round
  have hcourse := Polling.course_poll hrounds hpoll
  obtain ⟨start, b₃', hlook⟩ : ∃ start b₃', (r.timed time).runningClock.now.run b₃ = (start, b₃') :=
    ⟨_, _, rfl⟩
  rw [hlook] at hcourse
  obtain ⟨hstart, hstill⟩ := timed_now hkeeps hlook
  have hstill₄ := hstill₃.trans hstill
  rw [hstart, hstill₃.time_eq] at hcourse
  obtain ⟨rounds, hpasses, hpaced, hne, hresult⟩ := paced_of_course hkeeps hclient hcourse
  rw [hstill₄.testCase_eq, hstill₄.time_eq] at hpaced
  have hend : Still time b₄ b' := (Untouched.of_world hb').still
  have hall := (hstill₄.trans_passes hpasses).trans_still hend
  rw [← hend.time_eq] at hresult
  have hlimitFor := limitFor_ite b.world.testCase check deadline (timeOf time b)
  rw [← hlimit] at hlimitFor
  exact ⟨_, rfl, rfl, timely_of_paced hlimitFor hall hpaced (hne rfl) hresult, hall⟩

end Check

/-! ## The checks of a run -/

/-- How the calls of a run that come after its client was found fall into those before its checks,
the rounds and pauses of each check, and those after.  All checks have the deadline that follows
from the end of the call that started the endpoint. -/
inductive Shared (c : TestCase τ) (checks : List Check) :
    List (Stamped τ) → List (CheckRun τ) → Prop
  | unstarted {calls : List (Stamped τ)} :
      (∀ s ∈ calls, s.call.isUse = false) → Shared c checks calls []
  | started {before after : List (Stamped τ)} {start : Stamped τ} {runs : List (CheckRun τ)} :
      (∀ s ∈ before, s.call.isUse = false) → start.call = .started (.ok ()) →
      runs.map CheckRun.check <+: checks →
      (∀ run ∈ runs, run.Timely { c with deadline := some (start.ended + c.timeout) }
        (start.ended + c.timeout)) →
      (∀ s ∈ after, s.call.isUse = false) →
        Shared c checks (before ++ start :: runs.flatMap CheckRun.stamps ++ after) runs

namespace Shared

variable {c : TestCase τ} {checks : List Check} {calls : List (Stamped τ)}
  {runs : List (CheckRun τ)} {s : Stamped τ}

theorem cons (h : Shared c checks calls runs) (hs : s.call.isUse = false) :
    Shared c checks (s :: calls) runs := by
  cases h with
  | unstarted hcalls => exact .unstarted (List.forall_mem_cons.mpr ⟨hs, hcalls⟩)
  | started hbefore hstart hchecks htimely hafter =>
    exact .started (List.forall_mem_cons.mpr ⟨hs, hbefore⟩) hstart hchecks htimely hafter

theorem concat (h : Shared c checks calls runs) (hs : s.call.isUse = false) :
    Shared c checks (calls ++ [s]) runs := by
  have hsingle : ∀ s' ∈ [s], s'.call.isUse = false := List.forall_mem_singleton.mpr hs
  cases h with
  | unstarted hcalls => exact .unstarted (List.forall_mem_append.mpr ⟨hcalls, hsingle⟩)
  | started hbefore hstart hchecks htimely hafter =>
    rw [List.append_assoc]
    exact .started hbefore hstart hchecks htimely (List.forall_mem_append.mpr ⟨hafter, hsingle⟩)

end Shared

def Shares (c : TestCase τ) (checks : List Check) (ending : Except Failure (List (CheckResult τ)))
    (b b' : Running (Timed ω τ) τ) : Prop :=
  ∃ calls runs, stampsOf b' = stampsOf b ++ calls ∧ Shared c checks calls runs ∧
    ∀ results, ending = .ok results → runs.map CheckRun.result = results.map some

section Run

variable {r : Runner ω τ} {client : Http.Client (Bench ω)} {time : ω → τ} {c : TestCase τ}
  {checks : List Check} {b b' : Running (Timed ω τ) τ}

theorem Shares.of_error {f : Failure} (h : stampsOf b' = stampsOf b) :
    Shares c checks (.error f) b b' :=
  ⟨[], [], h.trans (List.append_nil _).symm,
    .unstarted (List.forall_mem_nil _), fun _ h => nomatch h⟩

theorem Shares.congr {ending : Except Failure (List (CheckResult τ))}
    {b₁ b₂ : Running (Timed ω τ) τ} (h : Shares c checks ending b₁ b₂)
    (hb : stampsOf b₁ = stampsOf b) (hb' : stampsOf b' = stampsOf b₂) :
    Shares c checks ending b b' := by
  obtain ⟨calls, runs, hcalls, hshared, hresults⟩ := h
  refine ⟨calls, runs, ?_, hshared, hresults⟩
  rw [hb', hcalls, hb]

theorem Shares.release {ending : Except Failure (List (CheckResult τ))}
    {released : Except Failure Unit} {b₁ : Running (Timed ω τ) τ}
    (h : Shares c checks ending b b₁)
    (hrelease : ((r.timed time).release (client.timed time)).runFrom b₁ = (released, b')) :
    Shares c checks ending b b' := by
  unfold Runner.release at hrelease
  rw [runFrom_advance_bind] at hrelease
  unfold Runner.timed Runner.wrapped at hrelease
  cases hclient : r.client with
  | some given =>
    rw [hclient] at hrelease
    cases hrelease
    exact h.congr rfl rfl
  | none =>
    rw [hclient] at hrelease
    obtain ⟨calls, runs, hcalls, hshared, hresults⟩ := h
    obtain ⟨s, hs, hb'⟩ : ∃ s : Stamped τ, s.call.isUse = false ∧
        stampsOf b' = stampsOf b₁ ++ [s] :=
      ⟨⟨.closed released, _, _⟩, rfl, (stamped_call hrelease).2⟩
    refine ⟨_, runs, ?_, hshared.concat hs, hresults⟩
    rw [hb', hcalls, List.append_assoc]

/-- Connecting is one call, and what comes of it is a client whose calls are noted. -/
theorem stamped_connect (hkeeps : r.KeepsTime time) {options : Http.Options}
    {ending : Except Failure (Http.Client (Bench (Timed ω τ)))}
    (h : (Runner.outside ((r.timed time).network.connect options)).runFrom b = (ending, b')) :
    ∃ s : Stamped τ, s.call.isUse = false ∧ stampsOf b' = stampsOf b ++ [s] ∧
      b'.world.testCase = b.world.testCase ∧
      ∀ connected, ending = .ok connected → ∃ client : Http.Client (Bench ω),
        connected = client.timed time ∧ ∀ call, Forward time (client.request call) := by
  obtain ⟨outcome, rfl, hcall⟩ := Runner.wrapped_connect_cases h
  obtain ⟨hcase, hstamps⟩ := stamped_call hcall
  refine ⟨_, rfl, hstamps, hcase, fun connected h => ?_⟩
  cases outcome with
  | error f => cases h
  | ok client =>
    cases h
    have hclient : ((r.network.connect options).runFrom
        ((b.withWorld b.world.outside).withWorld b.world.outside.world)).1 = .ok client :=
      congrArg Prod.fst hcall
    exact ⟨client, rfl, hkeeps.connected options _ client _ (Prod.ext hclient rfl)⟩

variable [ExactTime τ]

/-- The induction is on the checks; each begins in the state that the one before it has left, with
the same deadline. -/
theorem timely_runChecks (hkeeps : r.KeepsTime time) (hrounds : 0 < r.rounds)
    (hclient : ∀ call, Forward time (client.request call)) {deadline : τ}
    (hdeadline : b.world.testCase.deadline = some deadline)
    {ending : Except Failure (List (CheckResult τ))}
    (h : ((r.timed time).runChecks (client.timed time) checks).runFrom b = (ending, b')) :
    ∃ runs : List (CheckRun τ), runs.map CheckRun.check <+: checks ∧
      (∀ run ∈ runs, run.Timely b.world.testCase deadline) ∧
      Passes time b (runs.flatMap CheckRun.stamps) b' ∧
      ∀ results, ending = .ok results → runs.map CheckRun.result = results.map some := by
  induction checks generalizing b ending with
  | nil =>
    cases h
    refine ⟨[], List.prefix_rfl, fun run hrun => absurd hrun List.not_mem_nil,
      .refl _, fun results hresults => ?_⟩
    cases hresults
    rfl
  | cons check rest ih =>
    have hfirst : ∀ {outcome : Except Failure (CheckResult τ)} {b₁ b₂ : Running (Timed ω τ) τ},
        ((r.timed time).runCheck (client.timed time) check).runFrom b = (outcome, b₁) →
        b₂.world = b₁.world →
          ∃ run : CheckRun τ, run.check = check ∧ run.result = outcome.toOption ∧
            run.Timely b.world.testCase deadline ∧ Passes time b run.stamps b₂ := by
      intro outcome b₁ b₂ hcheck hworld
      obtain ⟨run, hrun, hresult, htimely, hpasses⟩ :=
        timely_runCheck hkeeps hrounds hclient hdeadline hcheck
      exact ⟨run, hrun, hresult, htimely, hpasses.trans_still (Untouched.of_world hworld).still⟩
    have hprefix : [check] <+: check :: rest := ⟨rest, rfl⟩
    obtain ⟨f, hcheck, rfl⟩ | ⟨result, b₁, hcheck, ⟨-, rfl, hworld⟩ | ⟨more, hmore, rfl⟩⟩ :=
      Runner.runChecks_cons_cases h
    · obtain ⟨run, rfl, -, htimely, hpasses⟩ := hfirst hcheck rfl
      refine ⟨[run], hprefix, List.forall_mem_singleton.mpr htimely, ?_, fun _ h => nomatch h⟩
      rw [List.flatMap_singleton]
      exact hpasses
    · obtain ⟨run, rfl, hresult, htimely, hpasses⟩ := hfirst hcheck hworld
      refine ⟨[run], hprefix, List.forall_mem_singleton.mpr htimely, ?_, fun results h => ?_⟩
      · rw [List.flatMap_singleton]
        exact hpasses
      · cases h
        exact congrArg (fun x => [x]) hresult
    · obtain ⟨run, rfl, hresult, htimely, hpasses⟩ := hfirst hcheck rfl
      obtain ⟨runs, hchecks, hruns, hlater, hresults⟩ :=
        ih (hpasses.testCase_eq ▸ hdeadline) hmore
      rw [hpasses.testCase_eq] at hruns
      refine ⟨run :: runs, List.cons_prefix_cons.mpr ⟨rfl, hchecks⟩,
        List.forall_mem_cons.mpr ⟨htimely, hruns⟩, ?_, fun results h => ?_⟩
      · rw [List.flatMap_cons]
        exact hpasses.trans hlater
      · cases more with
        | error f => cases h
        | ok others =>
          cases h
          rw [List.map_cons, List.map_cons, hresult, hresults others rfl]
          rfl

/-- The deadline is set when the endpoint has started, and the checks keep to it. -/
theorem shares_of_started (hkeeps : r.KeepsTime time) (hrounds : 0 < r.rounds)
    (hclient : ∀ call, Forward time (client.request call))
    (hmanual : b.world.testCase.manualDebug = false)
    {ending : Except Failure (List (CheckResult τ))}
    (h : (r.timed time).Started (client.timed time) b ending b') :
    Shares b.world.testCase (r.checksFor b.world.testCase) ending b b' := by
  cases h with
  | @refused f _ hstart =>
    obtain ⟨-, hb'⟩ := stamped_call hstart
    exact ⟨_, [], hb', .unstarted (List.forall_mem_singleton.mpr rfl), fun _ h => nomatch h⟩
  | @served b₁ b₂ b₃ b₄ _ now stopped ending hstart hnow hset hwork hstop =>
    obtain ⟨hcase₁, hb₁⟩ := stamped_call hstart
    obtain ⟨rfl, hb₂⟩ := timed_look hkeeps hnow
    have hcase₃ : b₃.world.testCase = { b.world.testCase with
        deadline := some (timeOf time b₁ + b.world.testCase.timeout) } := by
      rw [hset, hb₂.testCase_eq, hcase₁]
    have hstamps₃ : stampsOf b₃ = stampsOf b₁ := by
      rw [← hb₂.stamps_eq]
      exact stampsOf_congr (by rw [hset])
    obtain ⟨b₃', hworld, hchecks⟩ := Runner.work_cases (by rw [hcase₃]; exact hmanual) hwork
    have hdeadline : b₃'.world.testCase.deadline =
        some (timeOf time b₁ + b.world.testCase.timeout) := by
      rw [hworld, hcase₃]
    obtain ⟨runs, hprefix, htimely, hpasses, hresults⟩ :=
      timely_runChecks hkeeps hrounds hclient hdeadline hchecks
    obtain ⟨-, hb'⟩ := stamped_call hstop
    rw [hworld, hcase₃] at htimely
    rw [hcase₃] at hprefix
    -- the calls are the start, those of the checks and the stop
    let start : Stamped τ := ⟨.started (.ok ()), timeOf time b, timeOf time b₁⟩
    let stop : Stamped τ := ⟨.stopped stopped, timeOf time b₄, timeOf time b'⟩
    have hshared : Shared b.world.testCase (r.checksFor b.world.testCase)
        ([] ++ start :: runs.flatMap CheckRun.stamps ++ [stop]) runs :=
      .started (List.forall_mem_nil _) rfl hprefix htimely (List.forall_mem_singleton.mpr rfl)
    refine ⟨_, runs, ?_, hshared, ?_⟩
    · have hstamps₃' : stampsOf b₃' = stampsOf b₃ :=
        stampsOf_congr (congrArg Progress.outside hworld)
      rw [hb', hpasses.stamps_eq, hstamps₃', hstamps₃, hb₁]
      simp only [start, stop, List.append_assoc, List.cons_append, List.nil_append]
    · intro results h
      cases stopped with
      | error f => cases h
      | ok _ => exact hresults results h

theorem shares_of_runLogged (hkeeps : r.KeepsTime time) (hrounds : 0 < r.rounds)
    (hclient : ∀ call, Forward time (client.request call))
    (hmanual : b.world.testCase.manualDebug = false)
    {ending : Except Failure (List (CheckResult τ))}
    (h : ((r.timed time).runLogged (client.timed time)).runFrom b = (ending, b')) :
    Shares b.world.testCase (r.checksFor b.world.testCase) ending b b' := by
  obtain ⟨f, rfl, hworld⟩ | ⟨b₁, b₂, hopened, hstarted, hworld⟩ := Runner.runLogged_cases h
  · exact .of_error (stampsOf_congr (congrArg Progress.outside hworld))
  · have hcase : b₁.world.testCase = b.world.testCase := by
      rw [hopened]
    have hstamps : stampsOf b₁ = stampsOf b := stampsOf_congr (by rw [hopened])
    have hshares := shares_of_started hkeeps hrounds hclient (hcase ▸ hmanual) hstarted
    rw [hcase] at hshares
    exact hshares.congr hstamps (stampsOf_congr (congrArg Progress.outside hworld))

theorem shares_of_runWith (hkeeps : r.KeepsTime time) (hrounds : 0 < r.rounds)
    (hclient : ∀ call, Forward time (client.request call))
    (hmanual : b.world.testCase.manualDebug = false) {given : TestCase τ}
    {ending : Except Failure (CaseResult τ)}
    (h : ((r.timed time).runWith given (client.timed time)).runFrom b = (ending, b')) :
    ∃ outcome, Shares b.world.testCase (r.checksFor b.world.testCase) outcome b b' ∧
      ∀ result, ending = .ok result → outcome = .ok result.checks := by
  obtain ⟨outcome, b₁, released, b₂, hlogged, hrelease, hjournal, rfl⟩ := Runner.runWith_cases h
  have hshares := (shares_of_runLogged hkeeps hrounds hclient hmanual hlogged).release hrelease
  refine ⟨outcome, hshares.congr rfl (stampsOf_congr (congrArg Progress.outside hjournal.1)), ?_⟩
  intro result hresult
  cases released with
  | error f => cases hresult
  | ok _ =>
    cases outcome with
    | error f => cases hresult
    | ok results =>
      cases hresult
      rfl

theorem shares_of_run (hkeeps : r.KeepsTime time) (hrounds : 0 < r.rounds)
    (hmanual : b.world.testCase.manualDebug = false) {ending : Except Failure (CaseResult τ)}
    (h : (r.timed time).run.runFrom b = (ending, b')) :
    ∃ outcome,
      Shares (r.admittedCase b.world.testCase) (r.checksFor b.world.testCase) outcome b b' ∧
      ∀ result, ending = .ok result → outcome = .ok result.checks := by
  have hadmitted : ∀ {b₁ : Running (Timed ω τ) τ},
      b₁.world = (r.timed time).admitted b.world →
        b₁.world.testCase = r.admittedCase b.world.testCase ∧ stampsOf b₁ = stampsOf b := by
    intro b₁ hb₁
    exact ⟨congrArg Progress.testCase hb₁, stampsOf_congr (by rw [hb₁]; rfl)⟩
  -- without a client there is no check
  have hnothing : ∀ {f : Failure} {calls : List (Stamped τ)},
      stampsOf b' = stampsOf b ++ calls → (∀ s ∈ calls, s.call.isUse = false) →
        ∃ outcome, Shares (r.admittedCase b.world.testCase) (r.checksFor b.world.testCase) outcome
            b b' ∧ ∀ result, (.error f : Except Failure (CaseResult τ)) = .ok result →
              outcome = .ok result.checks := by
    intro f calls hcalls hquiet
    exact ⟨.error f, ⟨calls, [], hcalls, .unstarted hquiet, fun _ h => nomatch h⟩,
      fun _ h => nomatch h⟩
  cases Runner.course_run h with
  | refused _ hjournal =>
    refine hnothing ?_ (List.forall_mem_nil _)
    rw [List.append_nil]
    exact stampsOf_congr (congrArg Progress.outside hjournal.1)
  | unprepared _ hworld =>
    refine hnothing ?_ (List.forall_mem_nil _)
    rw [List.append_nil]
    exact stampsOf_congr (by rw [hworld])
  | unconnected _ hb₁ _ hconnect =>
    obtain ⟨s, hs, hstamps, -, -⟩ := stamped_connect hkeeps hconnect
    rw [(hadmitted hb₁).2] at hstamps
    exact hnothing hstamps (List.forall_mem_singleton.mpr hs)
  | lent _ hb₁ hclient hrun =>
    obtain ⟨hcase, hstamps⟩ := hadmitted hb₁
    obtain ⟨given, hgiven, rfl⟩ := Option.map_eq_some_iff.mp hclient
    obtain ⟨outcome, hshares, hresult⟩ := shares_of_runWith hkeeps hrounds
      (hkeeps.given given hgiven) (by rw [hcase]; exact hmanual) hrun
    rw [hcase] at hshares
    exact ⟨outcome, hshares.congr hstamps rfl, hresult⟩
  | @owned client b₁ b₂ _ _ _ hb₁ _ hconnect hrun =>
    obtain ⟨hcase, hstamps⟩ := hadmitted hb₁
    obtain ⟨s, hs, hb₂, hcase₂, hconnected⟩ := stamped_connect hkeeps hconnect
    obtain ⟨plain, rfl, hforward⟩ := hconnected client rfl
    have hcase' : b₂.world.testCase = r.admittedCase b.world.testCase := hcase₂.trans hcase
    obtain ⟨outcome, ⟨calls, runs, hcalls, hshared, hresults⟩, hresult⟩ :=
      shares_of_runWith hkeeps hrounds hforward (by rw [hcase']; exact hmanual) hrun
    rw [hcase'] at hshared
    refine ⟨outcome, ⟨s :: calls, runs, ?_, hshared.cons hs, hresults⟩, hresult⟩
    rw [hcalls, hb₂, hstamps, List.append_assoc, List.singleton_append]

end Run

/-- All checks of a run share one deadline, which is the time at which the endpoint had started and
the timeout of the test case.  Each check that is run is attempted at least once; but it is not
attempted again, and nothing is slept for, beyond the deadline, nor, where nothing may be found,
beyond the time that is given to absences.  A check that begins too late is attempted just once.
A presence is never given up before the deadline. -/
theorem checks_share_deadline [ExactTime τ] (r : Runner ω τ) (time : ω → τ) (c : TestCase τ)
    (b : Bench ω) (hkeeps : r.KeepsTime time) (hrounds : 0 < r.rounds)
    (hmanual : c.manualDebug = false) :
    ∃ runs, Shared (r.admittedCase c) (r.checksFor c) (r.chronicle time c b) runs ∧
      ∀ result, ((r.complete c).runFrom b).1 = .ok result →
        runs.map CheckRun.result = result.checks.map some := by
  have hmirror := (r.timed_refines time).run (timing (r.start c b))
  cases hrun : (r.timed time).run.runFrom (timing (r.start c b)) with
  | mk ending after =>
    obtain ⟨outcome, ⟨calls, runs, hcalls, hshared, hresults⟩, hresult⟩ :=
      shares_of_run hkeeps hrounds hmanual hrun
    rw [hrun] at hmirror
    have hchronicle : r.chronicle time c b = calls := by
      unfold Runner.chronicle
      rw [hrun]
      exact hcalls
    refine ⟨runs, hchronicle ▸ hshared, fun result h => ?_⟩
    have hending : ((r.complete c).runFrom b).1 = ending := congrArg Prod.fst hmirror
    exact hresults _ (hresult result (hending ▸ h))

/-! ### A check that takes up all the time

Nothing is ever found.  The first check is polled until the deadline has passed, and the second one,
which begins after it, is attempted once.
-/

def elapse (ticks : Int) : Action (Bench Int) Unit :=
  modify fun b => { b with world := b.world + ticks }

def slowClient : Http.Client (Bench Int) where
  request _ := throw .unfinished
  get _ _ := throw .unfinished
  close := pure ()

def slowRunner : Runner Int Int where
  clock := ⟨fun b => (b.world, b), elapse⟩
  endpoint :=
    { runPromql := fun _ => throw .unfinished
      searchTraces := fun _ => throw .unfinished
      traceById := fun _ => throw .unfinished
      searchLogs := fun _ => do
        elapse 1
        throw (.retryable ⟨.transient, "no answer", none, none⟩)
      searchProfiles := fun _ => throw .unfinished
      searchComposeLogs := fun _ => do
        elapse 1
        return false
      start := elapse 3
      stop := pure () }
  network := ⟨fun _ => pure slowClient⟩
  settings := { failFast := false }
  runScript _ := throw .unfinished
  rounds := 9

def slowCase : TestCase Int :=
  { name := "slow", path := ⟨"/", ["case", "oats.yaml"]⟩, dir := ⟨"/", ["case"]⟩, timeout := 3
    absentTimeout := 5
    definition :=
      { dockerCompose := some {}
        expected :=
          { composeLogs := ["ready"]
            logs := [{ logql := "rolls", signal := { regexp := some "rolled" } }] } } }

theorem slowRunner_keepsTime : slowRunner.KeepsTime id := by
  have helapse : ∀ {α : Type} (ticks : Int) (x : α), 0 ≤ ticks →
      Forward id (do elapse ticks; return x : Action (Bench Int) α) :=
    fun ticks x hticks b => Int.le_add_of_nonneg_right hticks
  have hfails : ∀ {α : Type} (ticks : Int) (f : Failure), 0 ≤ ticks →
      Forward id (do elapse ticks; throw f : Action (Bench Int) α) :=
    fun ticks f hticks b => Int.le_add_of_nonneg_right hticks
  have hquiet : ∀ {α : Type} (f : Failure),
      Forward id (throw f : Action (Bench Int) α) := fun f b => Int.le_refl _
  constructor
  case now => exact fun b => ⟨rfl, rfl⟩
  case sleep => exact fun wait b hwait => ⟨Int.le_add_of_nonneg_right hwait.le, Int.le_refl _⟩
  case searchComposeLogs => exact fun _ => helapse 1 false (by decide)
  case searchLogs => exact fun _ => hfails 1 _ (by decide)
  case given =>
    intro client h
    cases h
  case connected =>
    intro options b client b' h call
    cases h
    exact hquiet _
  all_goals exact fun _ => hquiet _

theorem slow_checks_timely :
    ∃ runs result, ((slowRunner.complete slowCase).runFrom ⟨0, {}, {}⟩).1 = .ok result ∧
      Shared (slowRunner.admittedCase slowCase) (slowRunner.checksFor slowCase)
        (slowRunner.chronicle id slowCase ⟨0, {}, {}⟩) runs ∧
      runs.map CheckRun.result = result.checks.map some ∧
      result.checks.map CheckResult.iterations = [2, 1] := by
  have hcounted : (match ((slowRunner.complete slowCase).runFrom ⟨0, {}, {}⟩).1 with
      | .ok result => result.checks.map CheckResult.iterations
      | .error _ => []) = [2, 1] := by
    decide +kernel
  obtain ⟨runs, hshared, hresults⟩ :=
    checks_share_deadline slowRunner id slowCase ⟨0, {}, {}⟩ slowRunner_keepsTime (by decide) rfl
  cases hrun : ((slowRunner.complete slowCase).runFrom ⟨0, {}, {}⟩).1 with
  | error f =>
    rw [hrun] at hcounted
    cases hcounted
  | ok result =>
    rw [hrun] at hcounted
    exact ⟨runs, result, rfl, hshared, hresults result hrun, hcounted⟩

end TelemetryCheck
