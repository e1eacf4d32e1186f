import TelemetryCheck.Proofs.Running.Answers

/-!
# Rounds

One round of a check in an observed world.  It calls the inputs and, where all of them were
answered as expected, asks the backend; it succeeds if and only if the answers make the check pass.
-/

namespace TelemetryCheck

variable {ω τ α β : Type}

/-- The calls of a round that makes a check pass: the inputs were answered, and then the answers of
the backend satisfied the check. -/
def Succeeds (c : TestCase τ) (check : Check) (calls : List (Interaction τ)) : Prop :=
  ∃ sent asked, calls = sent ++ asked ∧ Answered c.ports c.definition.input sent ∧
    Satisfied c check asked

/-- The calls of any round.  The backend is asked only after all inputs were answered. -/
inductive RoundOf (c : TestCase τ) (check : Check) : List (Interaction τ) → Prop
  | refused {calls : List (Interaction τ)} :
      Refused c.ports c.definition.input calls → RoundOf c check calls
  | probed {sent asked : List (Interaction τ)} :
      Answered c.ports c.definition.input sent → Probed c check asked →
        RoundOf c check (sent ++ asked)

variable {c : TestCase τ} {check : Check} {calls sent asked : List (Interaction τ)}

theorem Refused.ne_nil {ports : Ports} {inputs : List Input}
    (h : Refused ports inputs calls) : calls ≠ [] := by
  cases h <;> exact List.cons_ne_nil _ _

theorem Probed.ne_nil (h : Probed c check calls) : calls ≠ [] := by
  cases h <;> exact List.cons_ne_nil _ _

theorem RoundOf.ne_nil (h : RoundOf c check calls) : calls ≠ [] := by
  cases h with
  | refused h => exact h.ne_nil
  | probed _ h => exact List.append_ne_nil_of_right_ne_nil _ h.ne_nil

theorem not_succeeds_of_refused (h : Refused c.ports c.definition.input calls) :
    ¬Succeeds c check calls := by
  intro h
  obtain ⟨sent, asked, hcalls, hsent, -⟩ := h
  exact h.not_answered hsent asked hcalls

/-- Where the inputs end is settled by their number. -/
theorem succeeds_append_iff (hsent : Answered c.ports c.definition.input sent) :
    Succeeds c check (sent ++ asked) ↔ Satisfied c check asked := by
  constructor
  · intro h
    obtain ⟨sent', asked', hcalls, hsent', hasked'⟩ := h
    have hlength : sent.length = sent'.length := hsent.length_eq.trans hsent'.length_eq.symm
    obtain ⟨-, rfl⟩ := List.append_inj hcalls hlength
    exact hasked'
  · intro hasked
    exact ⟨sent, asked, rfl, hsent, hasked⟩

/-! ## Calling the inputs -/

/-- One call, which is answered with the status that is expected or comes to a failure. -/
theorem does_sendInput (client : Http.Client (Bench ω)) (ports : Ports) (input : Input) :
    Does c (Runner.outside (sendInput client.observed ports input) : Work ω τ Unit)
      fun calls ending =>
        match ending with
        | .ok () => ∃ content,
          calls = [.called (inputCall input ports) (.ok (.answered input.expectedStatus content))]
        | .error f => ∀ inputs, Sent ports (input :: inputs) calls (.error f) := by
  refine Does.outside_bind (Does.bind Does.observed ?_ ?_)
  · intro calls f hcalls inputs
    subst hcalls
    exact .broken
  · intro calls exchange hcalls
    subst hcalls
    refine Does.outside_ofExcept ?_
    rw [List.append_nil]
    cases exchange with
    | failed message => exact fun inputs => .unexpected (fun _ h => nomatch h) ⟨_, _, _, rfl⟩
    | answered status content =>
      unfold checkInput
      by_cases hstatus : status = input.expectedStatus
      · subst hstatus
        simp only [if_true]
        exact ⟨content, rfl⟩
      · simp only [if_neg hstatus]
        refine fun inputs => .unexpected (fun _ h => ?_) ⟨_, _, _, rfl⟩
        exact hstatus (Http.Exchange.answered.inj h).1

/-- Sending the inputs calls them in order, up to the first that comes to a failure. -/
theorem does_sendInputs (client : Http.Client (Bench ω)) (ports : Ports) (inputs : List Input) :
    Does c (Runner.outside (sendInputs client.observed ports inputs) : Work ω τ Unit)
      (Sent ports inputs) := by
  induction inputs with
  | nil => exact Does.outside_ofExcept (x := .ok ()) .done
  | cons input rest ih =>
    refine Does.outside_bind (Does.bind (does_sendInput client ports input) ?_ ?_)
    · exact fun calls f hfailed => hfailed rest
    · intro calls _ hanswered
      obtain ⟨content, rfl⟩ := hanswered
      exact ih.mono fun more ending hmore => .next hmore

/-! ## Asking a backend -/

theorem does_ask (r : Runner ω τ) (query : String) {note : Except Failure Body → Interaction τ}
    {call : Action (Bench ω) Body} :
    Does c (r.observed.ask query (observe note call)) fun calls ending => calls = [note ending] := by
  refine Does.bind (P := fun calls ending => calls = [note ending]) ?_ (fun _ _ h => h) ?_
  · refine Does.tryCatch Does.observed (fun _ _ h => h) ?_
    intro calls f hcalls
    subst hcalls
    have hthrow : Does c (throw f : Work ω τ Body) fun more ending =>
        [note (.error f)] ++ more = [note ending] := Does.throw rfl
    simp only
    split
    · exact Does.quiet_bind (Quiet.record r _ _ _) fun _ => hthrow
    · exact hthrow
  · intro calls body hcalls
    subst hcalls
    exact Does.quiet_bind (Quiet.record r _ _ _) fun _ => Does.pure rfl

/-- The traces are fetched in order, and they come to spans if and only if all of them could be
decoded. -/
theorem does_fetchTraces (r : Runner ω τ) (query : String) (ids : List String) :
    Does c (r.observed.fetchTraces query ids) fun calls ending =>
      Tried ids calls ∧
        match ending with
        | .ok (_, spans) => Fetched query ids calls spans
        | .error _ => ∀ spans, ¬Fetched query ids calls spans := by
  induction ids with
  | nil => exact Does.pure ⟨.stop, .nil⟩
  | cons id rest ih =>
    refine Does.bind (does_ask r _) ?_ ?_
    · intro calls f hcalls
      subst hcalls
      refine ⟨.fetch .stop, fun spans hfetched => ?_⟩
      cases hfetched
    intro calls body hcalls
    subst hcalls
    refine Does.bind (Does.ofExcept (P := fun calls ending =>
      calls = [] ∧ Response.traceSpans body (some query) = ending) ⟨rfl, rfl⟩) ?_ ?_
    · intro calls f h
      obtain ⟨rfl, hf⟩ := h
      refine ⟨.fetch .stop, fun spans hfetched => ?_⟩
      cases hfetched with
      | cons hspans _ =>
        rw [hf] at hspans
        cases hspans
    intro calls spans h
    obtain ⟨rfl, hspans⟩ := h
    refine Does.bind ih ?_ ?_
    · intro more f h
      obtain ⟨htried, hnot⟩ := h
      refine ⟨.fetch htried, fun all hfetched => ?_⟩
      cases hfetched with
      | cons _ hrest => exact hnot _ hrest
    · intro more fetched h
      obtain ⟨bodies, others⟩ := fetched
      obtain ⟨htried, hfetched⟩ := h
      refine Does.pure ?_
      rw [List.append_nil]
      exact ⟨.fetch htried, .cons hspans hfetched⟩

/-! ## One kind of check after the other

In each case the calls are what the check is about, and it goes well if and only if the answers
satisfy it.
-/

def Exact (c : TestCase τ) (check : Check) (calls : List (Interaction τ))
    (ending : Except Failure Unit) : Prop :=
  Probed c check calls ∧ (ending = .ok () ↔ Satisfied c check calls)

theorem Exact.failed {f : Failure} (hprobed : Probed c check calls)
    (h : ¬Satisfied c check calls) : Exact c check calls (.error f) :=
  ⟨hprobed, fun hok => (nomatch hok), fun hsatisfied => absurd hsatisfied h⟩

/-- A check that asks a backend once and judges the answer. -/
theorem does_ask_judge (r : Runner ω τ) {query : String}
    {note : Except Failure Body → Interaction τ} {call : Action (Bench ω) Body}
    {judge : Body → Except Failure Unit} (hprobed : ∀ outcome, Probed c check [note outcome])
    (hfail : ∀ f, ¬Satisfied c check [note (.error f)])
    (hjudge : ∀ body, judge body = .ok () ↔ Satisfied c check [note (.ok body)]) :
    Does c (r.observed.ask query (observe note call) >>= fun body => Action.ofExcept (judge body))
      (Exact c check) := by
  refine Does.bind (does_ask r _) ?_ ?_
  · intro calls f hcalls
    subst hcalls
    exact .failed (hprobed _) (hfail f)
  · intro calls body hcalls
    subst hcalls
    exact Does.ofExcept ⟨hprobed _, hjudge body⟩

theorem does_composeLogs [Time τ] (r : Runner ω τ) (message : String) :
    Does c (r.observed.perform (.composeLogs message)) (Exact c (.composeLogs message)) := by
  refine Does.bind Does.observed ?_ ?_
  · intro calls f hcalls
    subst hcalls
    exact .failed .composeLogs fun h => nomatch h
  · intro calls found hcalls
    subst hcalls
    refine Does.quiet_bind (Quiet.record r _ _ _) fun _ => Does.ofExcept ⟨.composeLogs, ?_⟩
    rw [judgeComposeLogs_eq_ok]
    constructor
    · intro hfound
      subst hfound
      exact .composeLogs
    · intro h
      cases h
      rfl

theorem does_logs [Time τ] (r : Runner ω τ) (e : ExpectedLogs) :
    Does c (r.observed.perform (.logs e)) (Exact c (.logs e)) := by
  refine does_ask_judge r (fun _ => .logs) (fun f h => nomatch h) fun body => ?_
  rw [judgeLogs_eq_ok]
  constructor
  · intro h
    obtain ⟨records, hrecords, matched, hmatched⟩ := h
    exact .logs hrecords hmatched
  · intro h
    cases h with
    | logs hrecords hmatched => exact ⟨_, hrecords, _, hmatched⟩

theorem does_metrics [Time τ] (r : Runner ω τ) (e : ExpectedMetrics) :
    Does c (r.observed.perform (.metrics e)) (Exact c (.metrics e)) := by
  refine does_ask_judge r (fun _ => .metrics) (fun f h => nomatch h) fun body => ?_
  rw [judgeMetrics_eq_ok]
  constructor
  · intro h
    obtain ⟨value, hvalue, comparator, bound, hparsed, hholds⟩ := h
    exact .metrics hvalue hparsed hholds
  · intro h
    cases h with
    | metrics hvalue hparsed hholds => exact ⟨_, hvalue, _, _, hparsed, hholds⟩

theorem does_profiles [Time τ] (r : Runner ω τ) (e : ExpectedProfiles) :
    Does c (r.observed.perform (.profiles e)) (Exact c (.profiles e)) := by
  refine does_ask_judge r (fun _ => .profiles) (fun f h => nomatch h) fun body => ?_
  rw [judgeProfiles_eq_ok]
  constructor
  · intro h
    obtain ⟨names, hnames, hcompiles, name, hname, hwants⟩ := h
    exact .profiles hnames hcompiles hname hwants
  · intro h
    cases h with
    | profiles hnames hcompiles hname hwants => exact ⟨_, hnames, hcompiles, _, hname, hwants⟩

theorem traceIds_eq (body : Body) (query : Option String) :
    Response.traceIds body query =
      (Response.decode Response.traceSearch body "trace search" query).map traceIdsOf := rfl

theorem does_traces [Time τ] (r : Runner ω τ) (e : ExpectedTraces) :
    Does c (r.observed.perform (.traces e)) (Exact c (.traces e)) := by
  refine Does.bind (does_ask r _) ?_ ?_
  · intro calls f hcalls
    subst hcalls
    exact .failed .search fun h => nomatch h
  intro calls found hcalls
  subst hcalls
  refine Does.bind (Does.ofExcept (P := fun calls ending =>
    calls = [] ∧ Response.traceIds found (some e.traceql) = ending) ⟨rfl, rfl⟩) ?_ ?_
  · intro calls f h
    obtain ⟨rfl, hf⟩ := h
    refine .failed .search fun h => ?_
    cases h with
    | traces hdecode _ _ =>
      rw [traceIds_eq, hdecode] at hf
      cases hf
  intro calls ids h
  obtain ⟨rfl, hids⟩ := h
  obtain ⟨traces, hdecode, rfl⟩ : ∃ traces,
      Response.decode Response.traceSearch found "trace search" (some e.traceql) = .ok traces ∧
        traceIdsOf traces = ids := by
    rw [traceIds_eq] at hids
    cases hdecode : Response.decode Response.traceSearch found "trace search"
        (some e.traceql) with
    | error f =>
      rw [hdecode] at hids
      cases hids
    | ok traces =>
      rw [hdecode] at hids
      cases hids
      exact ⟨traces, rfl, rfl⟩
  refine Does.bind (does_fetchTraces r e.traceql (traceIdsOf traces)) ?_ ?_
  · intro more f h
    obtain ⟨htried, hnot⟩ := h
    refine .failed (.traces hdecode htried) fun h => ?_
    cases h with
    | traces hdecode' hfetched _ =>
      rw [hdecode, Except.ok.injEq] at hdecode'
      exact absurd (hdecode' ▸ hfetched) (hnot _)
  · intro more fetched h
    obtain ⟨bodies, spans⟩ := fetched
    obtain ⟨htried, hfetched⟩ := h
    refine Does.ofExcept ?_
    rw [List.append_nil]
    refine ⟨.traces hdecode htried, ?_⟩
    rw [judgeTraces_eq_ok]
    constructor
    · intro h
      obtain ⟨matched, hmatched⟩ := h
      exact .traces hdecode hfetched hmatched
    · intro h
      cases h with
      | traces hdecode' hfetched' hmatched =>
        rw [hdecode, Except.ok.injEq] at hdecode'
        subst hdecode'
        rw [hfetched.unique hfetched']
        exact ⟨_, hmatched⟩

theorem scriptFailure_eq_ok [Time τ] {script : String} {timeout : τ} {ended : ScriptEnd} :
    Runner.scriptFailure script timeout ended = .ok () ↔
      ∃ output errors, ended = .finished 0 output errors := by
  cases ended with
  | timedOut => simp [Runner.scriptFailure]
  | notStarted f => simp [Runner.scriptFailure]
  | finished status output errors => simp [Runner.scriptFailure]

theorem does_custom [Time τ] (r : Runner ω τ) (e : CustomCheck) :
    Does c (r.observed.perform (.custom e)) (Exact c (.custom e)) := by
  refine Does.testCase_bind (Does.quiet_bind (Quiet.queryLog r) fun log => ?_)
  refine Does.quiet_bind (Quiet.write _ _) fun _ => Does.bind Does.observed ?_ ?_
  · intro calls f hcalls
    subst hcalls
    exact .failed .custom fun h => nomatch h
  intro calls ended hcalls
  subst hcalls
  have hjudge : Does c (Action.ofExcept (Runner.scriptFailure e.script c.timeout ended) :
      Work ω τ Unit) fun more ending =>
        Exact c (.custom e) ([.ran (e.scriptIn c) (.ok ended)] ++ more) ending := by
    refine Does.ofExcept ⟨.custom, ?_⟩
    rw [scriptFailure_eq_ok]
    constructor
    · intro h
      obtain ⟨output, errors, rfl⟩ := h
      exact .custom
    · intro h
      cases h
      exact ⟨_, _, rfl⟩
  cases ended with
  | timedOut => exact Does.quiet_bind (Quiet.pure ()) fun _ => hjudge
  | notStarted f => exact Does.quiet_bind (Quiet.pure ()) fun _ => hjudge
  | finished status output errors => exact Does.quiet_bind (Quiet.record r _ _ _) fun _ => hjudge

theorem does_perform [Time τ] (r : Runner ω τ) (check : Check) :
    Does c (r.observed.perform check) (Exact c check) := by
  cases check with
  | composeLogs message => exact does_composeLogs r message
  | logs e => exact does_logs r e
  | traces e => exact does_traces r e
  | metrics e => exact does_metrics r e
  | profiles e => exact does_profiles r e
  | custom e => exact does_custom r e

/-! ## A whole round -/

theorem does_round [Time τ] (r : Runner ω τ) (client : Http.Client (Bench ω)) (check : Check) :
    Does c (r.observed.round client.observed check) fun calls ending =>
      RoundOf c check calls ∧ (ending = .ok () ↔ Succeeds c check calls) := by
  have hrest : Does c (do
      let c ← Runner.testCase
      Runner.outside (sendInputs client.observed c.ports c.definition.input)
      r.observed.perform check : Work ω τ Unit) fun calls ending =>
        RoundOf c check calls ∧ (ending = .ok () ↔ Succeeds c check calls) := by
    refine Does.testCase_bind (Does.bind (does_sendInputs client c.ports c.definition.input) ?_ ?_)
    · intro calls f hsent
      refine ⟨.refused hsent.refused, fun h => (nomatch h), fun h => ?_⟩
      exact absurd h (not_succeeds_of_refused hsent.refused)
    · intro sent _ hsent
      refine (does_perform r check).mono fun asked ending hexact => ?_
      refine ⟨.probed hsent.answered hexact.1, ?_⟩
      rw [succeeds_append_iff hsent.answered]
      exact hexact.2
  refine Does.quiet_bind (Quiet.now r) fun now => Does.quiet_bind Quiet.get fun b => ?_
  refine Does.quiet_bind (Quiet.advance (fun _ => rfl) fun _ => rfl) fun _ => ?_
  simp only
  split
  · exact Does.quiet_bind (Quiet.log _ _ _) fun _ => hrest
  · exact hrest

end TelemetryCheck
