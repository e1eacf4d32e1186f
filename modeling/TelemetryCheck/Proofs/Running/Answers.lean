import TelemetryCheck.Proofs.FirstFailure
import TelemetryCheck.Proofs.Running.Observation
import TelemetryCheck.Proofs.Verdict

/-!
# What answers show

The answers that make a check pass, written down without the code that judges them: which calls
were made, what was decoded from the answers, and that it is what the check expects.
-/

namespace TelemetryCheck

variable {τ : Type}

/-! ## Inputs -/

/-- Every input was called once, in order, and answered with the status that it expects. -/
inductive Answered (ports : Ports) : List Input → List (Interaction τ) → Prop
  | nil : Answered ports [] []
  | cons {input : Input} {inputs : List Input} {content : Body} {calls : List (Interaction τ)} :
      Answered ports inputs calls →
        Answered ports (input :: inputs)
          (.called (inputCall input ports) (.ok (.answered input.expectedStatus content)) :: calls)

/-- The inputs were called in order up to the first that was not answered with the status that it
expects, and none after it. -/
inductive Refused (ports : Ports) : List Input → List (Interaction τ) → Prop
  | here {input : Input} {inputs : List Input} {outcome : Except Failure Http.Exchange} :
      (∀ content, outcome ≠ .ok (.answered input.expectedStatus content)) →
        Refused ports (input :: inputs) [.called (inputCall input ports) outcome]
  | later {input : Input} {inputs : List Input} {content : Body} {calls : List (Interaction τ)} :
      Refused ports inputs calls →
        Refused ports (input :: inputs)
          (.called (inputCall input ports) (.ok (.answered input.expectedStatus content)) :: calls)

/-- An application that does not answer as it should, which may still change. -/
def Failure.IsTransient (f : Failure) : Prop :=
  ∃ message query response, f = .transient message query response

/-- The inputs were called in order: either all of them were answered with the status that they
expect, or the last one that was called came to the failure. -/
inductive Sent (ports : Ports) :
    List Input → List (Interaction τ) → Except Failure Unit → Prop
  | done : Sent ports [] [] (.ok ())
  | next {input : Input} {inputs : List Input} {content : Body} {calls : List (Interaction τ)}
      {ending : Except Failure Unit} :
      Sent ports inputs calls ending →
        Sent ports (input :: inputs)
          (.called (inputCall input ports) (.ok (.answered input.expectedStatus content)) :: calls)
          ending
  | unexpected {input : Input} {inputs : List Input} {exchange : Http.Exchange} {f : Failure} :
      (∀ content, exchange ≠ .answered input.expectedStatus content) → f.IsTransient →
        Sent ports (input :: inputs) [.called (inputCall input ports) (.ok exchange)] (.error f)
  | broken {input : Input} {inputs : List Input} {f : Failure} :
      Sent ports (input :: inputs) [.called (inputCall input ports) (.error f)] (.error f)

variable {ports : Ports} {inputs : List Input} {calls sent : List (Interaction τ)}

theorem Sent.answered (h : Sent ports inputs calls (.ok ())) : Answered ports inputs calls := by
  generalize hending : Except.ok () = ending at h
  induction h with
  | done => exact .nil
  | next _ ih => exact .cons (ih hending)
  | unexpected _ _ => cases hending
  | broken => cases hending

theorem Sent.refused {f : Failure} (h : Sent ports inputs calls (.error f)) :
    Refused ports inputs calls := by
  generalize hending : Except.error f = ending at h
  induction h with
  | done => cases hending
  | next _ ih => exact .later (ih hending)
  | unexpected hanswer _ => exact .here fun content h => hanswer content (Except.ok.inj h)
  | broken => exact .here fun _ h => nomatch h

theorem Answered.length_eq (h : Answered ports inputs calls) : calls.length = inputs.length := by
  induction h with
  | nil => rfl
  | cons _ ih => rw [List.length_cons, List.length_cons, ih]

/-- Inputs of which one was refused were not all answered, whatever came next. -/
theorem Refused.not_answered (h : Refused ports inputs calls) (hsent : Answered ports inputs sent)
    (asked : List (Interaction τ)) : calls ≠ sent ++ asked := by
  induction h generalizing sent with
  | here hoc =>
    cases hsent with
    | cons _ =>
      intro heq
      rw [List.cons_append, List.cons.injEq, Interaction.called.injEq] at heq
      exact hoc _ heq.1.2
  | later _ ih =>
    cases hsent with
    | cons hrest =>
      intro heq
      rw [List.cons_append, List.cons.injEq] at heq
      exact ih hrest heq.2

/-! ## Backends -/

/-- Whether a name is the one asked for or has the pattern in it, as far as either is given. -/
def Flamebearers.Wants (f : Flamebearers) (name : String) : Prop :=
  given? f.equals = some name ∨
    ∃ regexp pattern, given? f.regexp = some regexp ∧ Pattern.compile regexp = .ok pattern ∧
      pattern.search name = true

/-- Each trace was fetched, in the order of the ids, and its spans could be decoded. -/
inductive Fetched (query : String) : List String → List (Interaction τ) → List Record → Prop
  | nil : Fetched query [] [] []
  | cons {id : String} {ids : List String} {body : Body} {spans more : List Record}
      {calls : List (Interaction τ)} :
      Response.traceSpans body (some query) = .ok spans → Fetched query ids calls more →
        Fetched query (id :: ids) (.asked (.trace id) (.ok body) :: calls) (spans ++ more)

inductive Tried : List String → List (Interaction τ) → Prop
  | stop {ids : List String} : Tried ids []
  | fetch {id : String} {ids : List String} {outcome : Except Failure Body}
      {calls : List (Interaction τ)} :
      Tried ids calls → Tried (id :: ids) (.asked (.trace id) outcome :: calls)

def traceIdsOf (traces : List Response.TraceSummary) : List String :=
  (traces.map Response.TraceSummary.id).filter fun id => !id.isEmpty

def CustomCheck.scriptIn (e : CustomCheck) (c : TestCase τ) : Script τ :=
  ⟨c.dir ++ Path.ofText e.script, c.dir, c.ports.asEnv, c.timeout⟩

/-- The backend was asked for what the check is about and for nothing else, every answer could be
decoded, and what was decoded is what the check expects. -/
inductive Satisfied (c : TestCase τ) : Check → List (Interaction τ) → Prop
  | composeLogs {message : String} :
      Satisfied c (.composeLogs message) [.searched message (.ok true)]
  | logs {e : ExpectedLogs} {body : Body} {records matched : List Record} :
      Response.logLines body (some e.logql) = .ok records →
      matchSignal e.signal records = .ok matched →
        Satisfied c (.logs e) [.asked (.logs e.logql) (.ok body)]
  | traces {e : ExpectedTraces} {found : Body} {traces : List Response.TraceSummary}
      {calls : List (Interaction τ)} {spans matched : List Record} :
      Response.decode Response.traceSearch found "trace search" (some e.traceql) = .ok traces →
      Fetched e.traceql (traceIdsOf traces) calls spans →
      matchSignal e.signal spans = .ok matched →
        Satisfied c (.traces e) (.asked (.traces e.traceql) (.ok found) :: calls)
  | metrics {e : ExpectedMetrics} {body : Body} {value bound : Float} {comparator : Comparator} :
      Response.metricValues body (some (Promql.replaceVariables e.promql)) = .ok [value] →
      parseComparator e.value = .ok (comparator, bound) →
      comparator.holds value bound = true →
        Satisfied c (.metrics e) [.asked (.promql (Promql.replaceVariables e.promql)) (.ok body)]
  | profiles {e : ExpectedProfiles} {body : Body} {names : List String} {name : String} :
      Response.flamebearerNames body (some e.query) = .ok names →
      (∀ regexp, given? e.flamebearers.regexp = some regexp → Compiles regexp) →
      name ∈ names → e.flamebearers.Wants name →
        Satisfied c (.profiles e) [.asked (.profiles e.query) (.ok body)]
  | custom {e : CustomCheck} {output errors : String} :
      Satisfied c (.custom e) [.ran (e.scriptIn c) (.ok (.finished 0 output errors))]

/-- The backend was asked for what the check is about and for nothing else, with any outcome; of the
traces that a search has found, the first ones were fetched. -/
inductive Probed (c : TestCase τ) : Check → List (Interaction τ) → Prop
  | composeLogs {message : String} {outcome : Except Failure Bool} :
      Probed c (.composeLogs message) [.searched message outcome]
  | logs {e : ExpectedLogs} {outcome : Except Failure Body} :
      Probed c (.logs e) [.asked (.logs e.logql) outcome]
  | search {e : ExpectedTraces} {outcome : Except Failure Body} :
      Probed c (.traces e) [.asked (.traces e.traceql) outcome]
  | traces {e : ExpectedTraces} {found : Body} {traces : List Response.TraceSummary}
      {calls : List (Interaction τ)} :
      Response.decode Response.traceSearch found "trace search" (some e.traceql) = .ok traces →
      Tried (traceIdsOf traces) calls →
        Probed c (.traces e) (.asked (.traces e.traceql) (.ok found) :: calls)
  | metrics {e : ExpectedMetrics} {outcome : Except Failure Body} :
      Probed c (.metrics e) [.asked (.promql (Promql.replaceVariables e.promql)) outcome]
  | profiles {e : ExpectedProfiles} {outcome : Except Failure Body} :
      Probed c (.profiles e) [.asked (.profiles e.query) outcome]
  | custom {e : CustomCheck} {outcome : Except Failure ScriptEnd} :
      Probed c (.custom e) [.ran (e.scriptIn c) outcome]

theorem Fetched.unique {query : String} {ids : List String} {spans spans' : List Record}
    (h : Fetched query ids calls spans) (h' : Fetched query ids calls spans') :
    spans = spans' := by
  induction h generalizing spans' with
  | nil =>
    cases h'
    rfl
  | cons hspans _ ih =>
    cases h' with
    | cons hspans' hrest =>
      rw [hspans, Except.ok.injEq] at hspans'
      rw [hspans', ih hrest]

/-! ## Judging -/

theorem discard_eq_ok {α : Type} {x : Except Failure α} :
    discard x = .ok () ↔ ∃ v, x = .ok v := by
  cases x with
  | error f => simp [discard, Functor.mapConst, Except.map]
  | ok v => simp [discard, Functor.mapConst, Except.map]

theorem withContext_eq_ok {α : Type} {query : String} {response : Option Body}
    {x : Except Failure α} {v : α} :
    Judge.withContext query response x = .ok v ↔ x = .ok v := by
  unfold Judge.withContext
  split
  · simp
  · rfl

theorem judgeComposeLogs_eq_ok {message : String} {found : Bool} :
    Judge.composeLogs message found = .ok () ↔ found = true := by
  cases found <;> simp [Judge.composeLogs]

theorem judgeLogs_eq_ok {e : ExpectedLogs} {body : Body} :
    Judge.logs e body = .ok () ↔
      ∃ records, Response.logLines body (some e.logql) = .ok records ∧
        ∃ matched, matchSignal e.signal records = .ok matched := by
  unfold Judge.logs
  rw [bind_eq_ok]
  simp only [discard_eq_ok, withContext_eq_ok]

theorem judgeTraces_eq_ok {e : ExpectedTraces} {bodies : List Body} {spans : List Record} :
    Judge.traces e bodies spans = .ok () ↔ ∃ matched, matchSignal e.signal spans = .ok matched := by
  unfold Judge.traces
  split
  · rename_i matched hmatched
    simp [hmatched]
  · rename_i hmismatch
    rw [hmismatch]
    split <;> simp
  · rename_i hf
    simp [hf]

theorem compareMetric_eq_ok {expression : String} {actual : Float} :
    compareMetric expression actual = .ok () ↔
      ∃ comparator bound, parseComparator expression = .ok (comparator, bound) ∧
        comparator.holds actual bound = true := by
  unfold compareMetric
  cases hp : parseComparator expression with
  | error m => simp
  | ok parsed =>
    obtain ⟨comparator, bound⟩ := parsed
    by_cases hholds : comparator.holds actual bound = true
    · simp only [hholds, if_true, true_iff]
      exact ⟨comparator, bound, rfl, hholds⟩
    · simp only [hholds]
      constructor
      · intro h
        cases h
      · intro h
        obtain ⟨comparator', bound', hparsed, hholds'⟩ := h
        cases hparsed
        exact absurd hholds' hholds

theorem judgeMetrics_eq_ok {e : ExpectedMetrics} {body : Body} :
    Judge.metrics e body = .ok () ↔
      ∃ value, Response.metricValues body (some (Promql.replaceVariables e.promql)) = .ok [value] ∧
        ∃ comparator bound, parseComparator e.value = .ok (comparator, bound) ∧
          comparator.holds value bound = true := by
  unfold Judge.metrics
  rw [bind_eq_ok]
  constructor
  · intro h
    obtain ⟨values, hvalues, h⟩ := h
    split at h
    · rename_i value
      rw [withContext_eq_ok, compareMetric_eq_ok] at h
      exact ⟨value, hvalues, h⟩
    · cases h
  · intro h
    obtain ⟨value, hvalue, h⟩ := h
    refine ⟨[value], hvalue, ?_⟩
    simp only
    rw [withContext_eq_ok, compareMetric_eq_ok]
    exact h

theorem isWantedName_eq_true {equals : Option String} {pattern : Option Pattern.Compiled}
    {name : String} :
    isWantedName equals pattern name = true ↔
      given? equals = some name ∨ ∃ p, pattern = some p ∧ p.search name = true := by
  unfold isWantedName
  cases pattern <;> simp

theorem find_isWantedName_eq_ok {equals : Option String} {pattern : Option Pattern.Compiled}
    {names : List String} {f : Failure} :
    (∃ name, (match names.find? (isWantedName equals pattern) with
      | some name => (pure name : Except Failure String)
      | none => throw f) = .ok name) ↔ ∃ name ∈ names, isWantedName equals pattern name = true := by
  cases hfind : names.find? (isWantedName equals pattern) with
  | some name =>
    have hwanted : isWantedName equals pattern name = true := List.find?_some hfind
    have hmem : name ∈ names := List.mem_of_find?_eq_some hfind
    exact ⟨fun _ => ⟨name, hmem, hwanted⟩, fun _ => ⟨name, rfl⟩⟩
  | none =>
    rw [List.find?_eq_none] at hfind
    constructor
    · intro h
      obtain ⟨name, h⟩ := h
      cases h
    · intro h
      obtain ⟨name, hmem, hwanted⟩ := h
      exact absurd hwanted (hfind name hmem)

/-- A name is found if and only if the pattern compiles and some name is wanted. -/
theorem matchName_eq_ok {f : Flamebearers} {names : List String} :
    (∃ name, matchName f.equals f.regexp names = .ok name) ↔
      (∀ regexp, given? f.regexp = some regexp → Compiles regexp) ∧
        ∃ name ∈ names, f.Wants name := by
  unfold matchName Flamebearers.Wants
  cases hr : given? f.regexp with
  | none =>
    refine Iff.trans find_isWantedName_eq_ok ?_
    simp [isWantedName_eq_true]
  | some regexp =>
    -- the pattern is compiled before any name is looked at, also where `equals` would do
    cases hp : Pattern.compile regexp with
    | error e =>
      have hcompile : ∃ g, compilePattern regexp "regexp" = .error g := by
        unfold compilePattern
        rw [hp]
        cases e <;> exact ⟨_, rfl⟩
      obtain ⟨g, hg⟩ := hcompile
      constructor
      · intro h
        obtain ⟨name, h⟩ := h
        simp only [hg] at h
        cases h
      · intro h
        obtain ⟨hcompiles, -⟩ := h
        obtain ⟨p, hp'⟩ := hcompiles regexp rfl
        rw [hp] at hp'
        cases hp'
    | ok p =>
      have hcompile : compilePattern regexp "regexp" = .ok p := by
        rw [compilePattern, hp]
      simp only [hcompile]
      refine Iff.trans find_isWantedName_eq_ok ?_
      have hcompiles : ∀ regexp', some regexp = some regexp' → Compiles regexp' := by
        intro regexp' h
        cases h
        exact ⟨p, hp⟩
      constructor
      · intro h
        obtain ⟨name, hmem, hwanted⟩ := h
        rw [isWantedName_eq_true] at hwanted
        refine ⟨hcompiles, name, hmem, hwanted.imp_right ?_⟩
        intro h
        obtain ⟨q, hq, hsearch⟩ := h
        cases hq
        exact ⟨regexp, p, rfl, hp, hsearch⟩
      · intro h
        obtain ⟨-, name, hmem, hwanted⟩ := h
        refine ⟨name, hmem, isWantedName_eq_true.mpr (hwanted.imp_right ?_)⟩
        intro h
        obtain ⟨regexp', q, hregexp, hq, hsearch⟩ := h
        cases hregexp
        rw [hp, Except.ok.injEq] at hq
        exact ⟨p, rfl, hq ▸ hsearch⟩

theorem judgeProfiles_eq_ok {e : ExpectedProfiles} {body : Body} :
    Judge.profiles e body = .ok () ↔
      ∃ names, Response.flamebearerNames body (some e.query) = .ok names ∧
        (∀ regexp, given? e.flamebearers.regexp = some regexp → Compiles regexp) ∧
        ∃ name ∈ names, e.flamebearers.Wants name := by
  unfold Judge.profiles
  rw [bind_eq_ok]
  simp only [discard_eq_ok, withContext_eq_ok, matchName_eq_ok]

end TelemetryCheck
