import Mathlib.Tactic.Linarith
import TelemetryCheck.Proofs.Polling.Rounds
import TelemetryCheck.Proofs.Running.Chronicle
import TelemetryCheck.Proofs.Running.Course
import TelemetryCheck.Proofs.Running.Round
import TelemetryCheck.Proofs.Time.Exact

/-!
# The pace of a check

The rounds of one check, with the times of their calls.  Time is exact and passes in calls only, so
the deadline of the polling bounds the beginning of every round but the first and the end of every
pause.
-/

namespace TelemetryCheck

variable {ω τ α : Type}

/-! ## States of a timed run -/

section Still

variable (time : ω → τ)

def stampsOf (b : Running (Timed ω τ) τ) : List (Stamped τ) := b.world.outside.stamps

def timeOf (b : Running (Timed ω τ) τ) : τ := time b.world.outside.world

theorem stampsOf_congr {b b' : Running (Timed ω τ) τ}
    (h : b'.world.outside = b.world.outside) : stampsOf b' = stampsOf b := congrArg Timed.stamps h

structure Still (b b' : Running (Timed ω τ) τ) : Prop where
  testCase_eq : b'.world.testCase = b.world.testCase
  stamps_eq : stampsOf b' = stampsOf b
  time_eq : timeOf time b' = timeOf time b

variable {time} {b b' b'' : Running (Timed ω τ) τ}

theorem Untouched.still (h : Untouched b b') : Still time b b' := by
  refine ⟨h.2, stampsOf_congr h.1, ?_⟩
  unfold timeOf
  rw [h.1]

theorem Still.trans (h : Still time b b') (h' : Still time b' b'') : Still time b b'' :=
  ⟨h'.testCase_eq.trans h.testCase_eq, h'.stamps_eq.trans h.stamps_eq, h'.time_eq.trans h.time_eq⟩

end Still

theorem stamped_call {time : ω → τ} {note : Except Failure α → Interaction τ}
    {a : Action (Bench ω) α} {b b' : Running (Timed ω τ) τ} {ending : Except Failure α}
    (h : (Runner.outside ((Wrapping.timing time).call note a)).runFrom b = (ending, b')) :
    b'.world.testCase = b.world.testCase ∧
      stampsOf b' = stampsOf b ++ [⟨note ending, timeOf time b, timeOf time b'⟩] := by
  cases h
  exact ⟨rfl, rfl⟩

variable [Time τ]

/-- Calls were made one after the other, and time has passed in them only. -/
structure Passes (time : ω → τ) (b : Running (Timed ω τ) τ) (calls : List (Stamped τ))
    (b' : Running (Timed ω τ) τ) : Prop where
  testCase_eq : b'.world.testCase = b.world.testCase
  stamps_eq : stampsOf b' = stampsOf b ++ calls
  contiguous : Contiguous (timeOf time b) calls (timeOf time b')
  forward : timeOf time b ≤ timeOf time b'

section Passes

variable [ExactTime τ] {time : ω → τ} {b b' b'' : Running (Timed ω τ) τ}
  {calls more : List (Stamped τ)}

theorem Still.passes (h : Still time b b') : Passes time b [] b' := by
  refine ⟨h.testCase_eq, ?_, ?_, ?_⟩
  · rw [h.stamps_eq, List.append_nil]
  · rw [h.time_eq]
    exact .nil
  · rw [h.time_eq]
    exact ExactTime.le_refl _

theorem Passes.refl (b : Running (Timed ω τ) τ) : Passes time b [] b :=
  Still.passes ⟨rfl, rfl, rfl⟩

theorem Passes.trans (h : Passes time b calls b') (h' : Passes time b' more b'') :
    Passes time b (calls ++ more) b'' := by
  refine ⟨h'.testCase_eq.trans h.testCase_eq, ?_, h.contiguous.append h'.contiguous,
    ExactTime.le_trans h.forward h'.forward⟩
  rw [h'.stamps_eq, h.stamps_eq, List.append_assoc]

theorem Still.trans_passes (h : Still time b b') (h' : Passes time b' calls b'') :
    Passes time b calls b'' := by
  have htrans := h.passes.trans h'
  rwa [List.nil_append] at htrans

theorem Passes.trans_still (h : Passes time b calls b') (h' : Still time b' b'') :
    Passes time b calls b'' := by
  have htrans := h.trans h'.passes
  rwa [List.append_nil] at htrans

end Passes

/-! ## Where time passes -/

def Forward (time : ω → τ) (a : Action (Bench ω) α) : Prop :=
  ∀ b, time b.world ≤ time (a.runFrom b).2.world

/-- The clock shows the time of the world, and does not change it by being looked at.  A sleep takes
no longer than it is asked to, and in no call of a run does time go back. -/
structure Runner.KeepsTime (r : Runner ω τ) (time : ω → τ) : Prop where
  now : ∀ b, (r.clock.now.run b).1 = time b.world ∧
    time (r.clock.now.run b).2.world = time b.world
  sleep : ∀ wait b, 0 < wait →
    time b.world ≤ time ((r.clock.sleep wait).runFrom b).2.world ∧
      time ((r.clock.sleep wait).runFrom b).2.world ≤ time b.world + wait
  runPromql : ∀ q, Forward time (r.endpoint.runPromql q)
  searchTraces : ∀ q, Forward time (r.endpoint.searchTraces q)
  traceById : ∀ id, Forward time (r.endpoint.traceById id)
  searchLogs : ∀ q, Forward time (r.endpoint.searchLogs q)
  searchProfiles : ∀ q, Forward time (r.endpoint.searchProfiles q)
  searchComposeLogs : ∀ message, Forward time (r.endpoint.searchComposeLogs message)
  runScript : ∀ script, Forward time (r.runScript script)
  given : ∀ client, r.client = some client → ∀ call, Forward time (client.request call)
  connected : ∀ options b client b', (r.network.connect options).runFrom b = (.ok client, b') →
    ∀ call, Forward time (client.request call)

/-! ## The calls of a round -/

section Calls

variable {r : Runner ω τ} {client : Http.Client (Bench ω)} {time : ω → τ}
  {b b' : Running (Timed ω τ) τ}

theorem timed_now (hkeeps : r.KeepsTime time) {now : τ}
    (h : (r.timed time).runningClock.now.run b = (now, b')) :
    now = timeOf time b ∧ Still time b b' := by
  have hnow := hkeeps.now ((b.withWorld b.world.outside).withWorld b.world.outside.world)
  cases h
  exact ⟨hnow.1, rfl, rfl, hnow.2⟩

/-- What is told of a round is written to the query log, which takes no time. -/
theorem still_told {iteration : Nat} {elapsed now : τ} {e : Retryable}
    {b₁ : Running (Timed ω τ) τ} {ending : Except Failure Unit} (hkeeps : r.KeepsTime time)
    (hnow : (r.timed time).runningClock.now.run b = (now, b₁))
    (h : ((r.timed time).noteRetry iteration elapsed e).runFrom b₁ = (ending, b')) :
    now = timeOf time b ∧ Still time b b' := by
  obtain ⟨hread, hstill⟩ := timed_now hkeeps hnow
  have htold : b'.world = b₁.world := (along_noteRetry _ iteration elapsed e).of_run h
  exact ⟨hread, hstill.trans (Untouched.of_world htold).still⟩

theorem timed_look (hkeeps : r.KeepsTime time) {now : τ}
    (h : (r.timed time).now.runFrom b = (.ok now, b')) :
    now = timeOf time b ∧ Still time b b' := by
  rw [Runner.now_eq_always, Action.runFrom_always] at h
  cases h
  exact timed_now hkeeps rfl

theorem passes_call {note : Except Failure α → Interaction τ} {a : Action (Bench ω) α}
    {ending : Except Failure α} (ha : Forward time a)
    (h : (Runner.outside ((Wrapping.timing time).call note a)).runFrom b = (ending, b')) :
    Passes time b [⟨note ending, timeOf time b, timeOf time b'⟩] b' := by
  have hforward := ha ((b.withWorld b.world.outside).withWorld b.world.outside.world)
  obtain ⟨htestCase, hstamps⟩ := stamped_call h
  refine ⟨htestCase, hstamps, .single ⟨note ending, timeOf time b, timeOf time b'⟩, ?_⟩
  cases h
  exact hforward

theorem passes_sleep (hkeeps : r.KeepsTime time) {wait : τ} (hwait : 0 < wait)
    {ending : Except Failure Unit}
    (h : ((r.timed time).runningClock.sleep wait).runFrom b = (ending, b')) :
    Passes time b [⟨.slept wait ending, timeOf time b, timeOf time b'⟩] b' ∧
      timeOf time b' ≤ timeOf time b + wait := by
  refine ⟨passes_call (fun b => (hkeeps.sleep wait b hwait).1) h, ?_⟩
  have hends :=
    (hkeeps.sleep wait ((b.withWorld b.world.outside).withWorld b.world.outside.world) hwait).2
  cases h
  exact hends

theorem along_call {note : Except Failure α → Interaction τ} {a : Action (Bench ω) α}
    (ha : Forward time a) :
    Action.Along (fun b b' => ∃ calls, Passes time b calls b')
      (Runner.outside ((Wrapping.timing time).call note a)) :=
  fun _ => ⟨_, passes_call ha rfl⟩

theorem respects_passes [ExactTime τ] (hkeeps : r.KeepsTime time)
    (hclient : ∀ call, Forward time (client.request call)) :
    (r.timed time).Respects (client.timed time) fun b b' => ∃ calls, Passes time b calls b' where
  quiet h := ⟨[], h.still.passes⟩
  trans h h' := by
    obtain ⟨calls, hpasses⟩ := h
    obtain ⟨more, hmore⟩ := h'
    exact ⟨calls ++ more, hpasses.trans hmore⟩
  now _ := ⟨[], (timed_now hkeeps rfl).2.passes⟩
  request call := along_call (hclient call)
  runPromql q := along_call (hkeeps.runPromql q)
  searchTraces q := along_call (hkeeps.searchTraces q)
  traceById id := along_call (hkeeps.traceById id)
  searchLogs q := along_call (hkeeps.searchLogs q)
  searchProfiles q := along_call (hkeeps.searchProfiles q)
  searchComposeLogs message := along_call (hkeeps.searchComposeLogs message)
  runScript script := along_call (hkeeps.runScript script)

theorem passes_round [ExactTime τ] (hkeeps : r.KeepsTime time)
    (hclient : ∀ call, Forward time (client.request call)) {check : Check}
    {ending : Except Failure Unit}
    (h : ((r.timed time).round (client.timed time) check).runFrom b = (ending, b')) :
    ∃ calls, Passes time b calls b' ∧
      RoundOf b.world.testCase check (calls.map Stamped.call) := by
  obtain ⟨calls, hpasses⟩ := ((respects_passes hkeeps hclient).round check).of_run h
  refine ⟨calls, hpasses, ?_⟩
  -- without the times, the calls are those of the observed round
  have hrefines := Wrapping.timing_refines_observing time
  have hround : (r.observed.round client.observed check).runFrom (Running.through untimed b) =
      (ending, Running.through untimed b') := by
    have hrun := (hrefines.runner r).round (hrefines.client client) check b
    rw [show ((r.wrapped (.timing time)).round (client.wrapped (.timing time)) check).runFrom b =
      (ending, b') from h] at hrun
    exact hrun
  obtain ⟨-, seenCalls, hseen, hroundOf, -⟩ :=
    does_round r client check (Running.through untimed b) rfl
  rw [hround] at hseen
  have hcalls : (stampsOf b').map Stamped.call = (stampsOf b).map Stamped.call ++ seenCalls := hseen
  rw [hpasses.stamps_eq, List.map_append] at hcalls
  rw [List.append_cancel_left hcalls]
  exact hroundOf

end Calls

/-! ## Rounds and pauses -/

structure TimedRound (τ : Type) where
  began : τ
  calls : List (Stamped τ)
  pause : Option (Stamped τ) := none

def TimedRound.stamps (round : TimedRound τ) : List (Stamped τ) := round.calls ++ round.pause.toList

/-- The calls are those of a round of the check, the first of them begins with the round, and the
pause is a sleep. -/
structure TimedRound.IsOf (c : TestCase τ) (check : Check) (round : TimedRound τ) : Prop where
  begins : round.calls.head?.map Stamped.began = some round.began
  made : RoundOf c check (round.calls.map Stamped.call)
  slept : ∀ s ∈ round.pause, ∃ wait outcome, s.call = .slept wait outcome ∧ 0 < wait

/-- A call not before `t`, in a polling that began at `start`, that begins before the deadline and
ends by it. -/
structure Stamped.InTime (start limit t : τ) (s : Stamped τ) : Prop where
  le_began : t ≤ s.began
  began_lt : s.began - start < limit
  ended_le : s.ended ≤ start + limit

/-- Rounds after `n` earlier ones of a polling that began at `start` with the deadline `limit`.
Only the very first round begins whatever the clock shows, and every pause is in time. -/
structure Paced (c : TestCase τ) (check : Check) (start limit : τ) (n : Nat) (begins : τ)
    (rounds : List (TimedRound τ)) : Prop where
  isOf : ∀ round ∈ rounds, round.IsOf c check
  began_le : ∀ round ∈ rounds, begins ≤ round.began
  again : ∀ round ∈ rounds.drop (1 - n), round.began - start < limit
  pause_inTime : ∀ round ∈ rounds, ∀ s ∈ round.pause, s.InTime start limit begins

theorem Paced.nil {c : TestCase τ} {check : Check} {start limit begins : τ} {n : Nat} :
    Paced c check start limit n begins [] := by
  constructor <;> simp

section Paced

variable [ExactTime τ] {c : TestCase τ} {check : Check} {start limit begins begins' : τ} {n : Nat}
  {round : TimedRound τ} {rounds : List (TimedRound τ)}

theorem Stamped.InTime.mono {t t' : τ} {s : Stamped τ} (h : s.InTime start limit t) (ht : t' ≤ t) :
    s.InTime start limit t' :=
  ⟨ExactTime.le_trans ht h.le_began, h.began_lt, h.ended_le⟩

theorem Paced.cons (h : Paced c check start limit (n + 1) begins' rounds)
    (hround : round.IsOf c check) (hbegins : begins ≤ begins') (hbegan : round.began = begins)
    (hagain : 0 < n → begins - start < limit)
    (hpause : ∀ s ∈ round.pause, s.InTime start limit begins) :
    Paced c check start limit n begins (round :: rounds) := by
  refine ⟨List.forall_mem_cons.mpr ⟨hround, h.isOf⟩, ?_, ?_, List.forall_mem_cons.mpr
    ⟨hpause, fun later hlater s hs => (h.pause_inTime later hlater s hs).mono hbegins⟩⟩
  · refine List.forall_mem_cons.mpr ⟨?_, fun later hlater => ?_⟩
    · rw [hbegan]
      exact ExactTime.le_refl _
    · exact ExactTime.le_trans hbegins (h.began_le later hlater)
  · have hlater := h.again
    rw [show 1 - (n + 1) = 0 by omega, List.drop_zero] at hlater
    cases n with
    | zero => exact hlater
    | succ n =>
      rw [show 1 - (n + 1) = 0 by omega]
      refine List.forall_mem_cons.mpr ⟨?_, hlater⟩
      rw [hbegan]
      exact hagain (Nat.succ_pos n)

end Paced

/-! ## The rounds of a polling -/

section Polling

variable [ExactTime τ] {r : Runner ω τ} {client : Http.Client (Bench ω)} {time : ω → τ}
  {check : Check} {start limit interval : τ} {n : Nat} {last : Option Retryable}
  {b b₁ b' : Running (Timed ω τ) τ}

/-- A pause does nothing, or it is one sleep that is in time. -/
theorem passes_pause (hkeeps : r.KeepsTime time) {plan : Polling.Plan (Running (Timed ω τ) τ) τ}
    {ending : Except Failure Unit}
    (h : (Polling.pause (r.timed time).runningClock plan (timeOf time b - start)).runFrom b =
      (ending, b')) :
    ∃ pause : Option (Stamped τ), Passes time b pause.toList b' ∧
      (∀ s ∈ pause, ∃ wait outcome, s.call = .slept wait outcome ∧ 0 < wait) ∧
      ∀ s ∈ pause, s.InTime start plan.deadline (timeOf time b) := by
  obtain ⟨-, rfl⟩ | ⟨wait, hwait, hpos, hsleep⟩ := Polling.pause_cases h
  · exact ⟨none, .refl _, fun s hs => (nomatch hs), fun s hs => (nomatch hs)⟩
  obtain ⟨hpasses, hends⟩ := passes_sleep hkeeps hpos hsleep
  refine ⟨some _, hpasses, ?_, ?_⟩
  · intro s hs
    cases hs
    exact ⟨wait, ending, rfl, hpos⟩
  · intro s hs
    cases hs
    have hleast : ExactTime.real wait ≤ ExactTime.real plan.deadline -
        (ExactTime.real (timeOf time b) - ExactTime.real start) := by
      rw [hwait, ExactTime.real_least, ← ExactTime.real_sub, ← ExactTime.real_sub]
      exact min_le_right _ _
    have hzero := ExactTime.lt_iff.mp hpos
    rw [ExactTime.real_zero] at hzero
    refine ⟨ExactTime.le_refl _, ?_, ?_⟩
    · rw [ExactTime.lt_iff, ExactTime.real_sub]
      dsimp only
      linarith
    · rw [ExactTime.le_iff, ExactTime.real_add] at hends ⊢
      dsimp only
      linarith

/-- The look at the clock that begins a round, and its attempt. -/
theorem passes_attempt (hkeeps : r.KeepsTime time)
    (hclient : ∀ call, Forward time (client.request call)) {head : τ}
    {ending : Except Failure Unit}
    (hhead : (r.timed time).runningClock.now.run b = (head, b₁))
    (h : ((r.timed time).round (client.timed time) check).runFrom b₁ = (ending, b')) :
    head = timeOf time b ∧ ∃ calls, Passes time b calls b' ∧
      ∀ pause : Option (Stamped τ),
        (∀ s ∈ pause, ∃ wait outcome, s.call = .slept wait outcome ∧ 0 < wait) →
          (⟨timeOf time b, calls, pause⟩ : TimedRound τ).IsOf b.world.testCase check := by
  obtain ⟨hread, hstill⟩ := timed_now hkeeps hhead
  obtain ⟨calls, hcalls, hround⟩ := passes_round hkeeps hclient h
  have hpasses := hstill.trans_passes hcalls
  rw [hstill.testCase_eq] at hround
  have hne : calls ≠ [] := fun hnil => hround.ne_nil (congrArg (List.map Stamped.call) hnil)
  exact ⟨hread, calls, hpasses, fun pause hslept =>
    ⟨hpasses.contiguous.head_eq hne, hround, hslept⟩⟩

/-- The last round of a polling, with the pause that was broken off if there was one. -/
theorem paced_last {calls : List (Stamped τ)} {pause : Option (Stamped τ)}
    (hround : (⟨timeOf time b, calls, pause⟩ : TimedRound τ).IsOf b.world.testCase check)
    (hcalls : Passes time b calls b₁) (hpauses : Passes time b₁ pause.toList b')
    (hagain : 0 < n → timeOf time b - start < limit)
    (hpause : ∀ s ∈ pause, s.InTime start limit (timeOf time b₁)) :
    ∃ round : TimedRound τ, Passes time b ([round].flatMap TimedRound.stamps) b' ∧
      Paced b.world.testCase check start limit n (timeOf time b) [round] := by
  refine ⟨⟨timeOf time b, calls, pause⟩, ?_,
    Paced.nil.cons hround (ExactTime.le_refl _) rfl hagain
      fun s hs => (hpause s hs).mono hcalls.forward⟩
  rw [List.flatMap_singleton]
  exact hcalls.trans hpauses

/-- The induction follows the rounds.  A round begins with a look at the clock, which is what the
deadline is held against, and its pause ends within what is left. -/
theorem paced_of_course (hkeeps : r.KeepsTime time)
    (hclient : ∀ call, Forward time (client.request call))
    {ending : Except Failure (PollResult τ)}
    (h : Polling.Course (r.timed time).runningClock
      ((r.timed time).plan (client.timed time) check limit interval) start n last b ending b') :
    ∃ rounds : List (TimedRound τ), Passes time b (rounds.flatMap TimedRound.stamps) b' ∧
      Paced b.world.testCase check start limit n (timeOf time b) rounds ∧
      (n = 0 → rounds ≠ []) ∧
      ∀ result, ending = .ok result → result.iterations = n + rounds.length ∧
        (result.passed = false → limit ≤ timeOf time b' - start) := by
  have hagain : ∀ {n : Nat} {head : τ}, ¬Polling.Expired
      ((r.timed time).plan (client.timed time) check limit interval) start n head →
        0 < n → head - start < limit := by
    intro n head hover hn
    refine ExactTime.lt_iff.mpr (not_le.mp fun hle => hover ⟨hn, ExactTime.le_iff.mpr hle⟩)
  have hquiet : ∀ {b b' : Running (Timed ω τ) τ}, Still time b b' →
      Passes time b (none : Option (Stamped τ)).toList b' := Still.passes
  have hnone : ∀ {Q : Stamped τ → Prop}, ∀ s ∈ (none : Option (Stamped τ)), Q s :=
    fun s hs => nomatch hs
  induction h with
  | cutOff hn =>
    exact ⟨[], .refl _, .nil, fun h => absurd hn (by omega),
      fun result h => nomatch h⟩
  | expired hhead hover =>
    obtain ⟨hread, hstill⟩ := timed_now hkeeps hhead
    refine ⟨[], hstill.passes, .nil, fun h => absurd hover.1 (by omega), ?_⟩
    intro result hresult
    cases hresult
    refine ⟨rfl, fun _ => ?_⟩
    rw [hstill.time_eq, ← hread]
    exact hover.2
  | passed hhead hover hattempt hnow =>
    obtain ⟨rfl, calls, hpasses, hisOf⟩ := passes_attempt hkeeps hclient hhead hattempt
    obtain ⟨-, hstill⟩ := timed_now hkeeps hnow
    obtain ⟨round, hall, hpaced⟩ := paced_last (hisOf none hnone) hpasses (hquiet hstill)
      (hagain hover) hnone
    refine ⟨[round], hall, hpaced, fun _ => List.cons_ne_nil _ _, ?_⟩
    intro result hresult
    cases hresult
    exact ⟨rfl, fun hfailed => nomatch hfailed⟩
  | broken hhead hover hattempt _ =>
    obtain ⟨rfl, calls, hpasses, hisOf⟩ := passes_attempt hkeeps hclient hhead hattempt
    obtain ⟨round, hall, hpaced⟩ := paced_last (hisOf none hnone) hpasses
      (.refl _) (hagain hover) hnone
    exact ⟨[round], hall, hpaced, fun _ => List.cons_ne_nil _ _, fun result h => nomatch h⟩
  | untold hhead hover hattempt hnow htold =>
    obtain ⟨rfl, calls, hpasses, hisOf⟩ := passes_attempt hkeeps hclient hhead hattempt
    obtain ⟨-, hstill⟩ := still_told hkeeps hnow htold
    obtain ⟨round, hall, hpaced⟩ := paced_last (hisOf none hnone) hpasses (hquiet hstill)
      (hagain hover) hnone
    exact ⟨[round], hall, hpaced, fun _ => List.cons_ne_nil _ _, fun result h => nomatch h⟩
  | roused hhead hover hattempt hnow htold hpause =>
    obtain ⟨rfl, calls, hpasses, hisOf⟩ := passes_attempt hkeeps hclient hhead hattempt
    obtain ⟨rfl, hstill⟩ := still_told hkeeps hnow htold
    rw [← hstill.time_eq] at hpause
    obtain ⟨pause, hpauses, hslept, hinTime⟩ := passes_pause hkeeps hpause
    obtain ⟨round, hall, hpaced⟩ := paced_last (hisOf pause hslept) (hpasses.trans_still hstill)
      hpauses (hagain hover) hinTime
    exact ⟨[round], hall, hpaced, fun _ => List.cons_ne_nil _ _, fun result h => nomatch h⟩
  | again hhead hover hattempt hnow htold hpause _ ih =>
    obtain ⟨rfl, calls, hpasses, hisOf⟩ := passes_attempt hkeeps hclient hhead hattempt
    obtain ⟨rfl, hstill⟩ := still_told hkeeps hnow htold
    rw [← hstill.time_eq] at hpause
    obtain ⟨pause, hpauses, hslept, hinTime⟩ := passes_pause hkeeps hpause
    have hcalls := hpasses.trans_still hstill
    have hround := hcalls.trans hpauses
    obtain ⟨rounds, hrest, hpaced, -, hresult⟩ := ih
    rw [hround.testCase_eq] at hpaced
    refine ⟨_ :: rounds, ?_,
      hpaced.cons (hisOf pause hslept) hround.forward rfl (hagain hover)
        fun s hs => (hinTime s hs).mono hcalls.forward,
      fun _ => List.cons_ne_nil _ _, fun result h => ?_⟩
    · rw [List.flatMap_cons]
      exact hround.trans hrest
    · obtain ⟨hiterations, hfailed⟩ := hresult result h
      refine ⟨?_, hfailed⟩
      rw [hiterations, List.length_cons]
      omega

end Polling
end TelemetryCheck
