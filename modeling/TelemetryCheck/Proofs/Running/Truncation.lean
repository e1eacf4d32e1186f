import TelemetryCheck.Proofs.Running.CheckVerdict
import TelemetryCheck.Proofs.Running.Opening

/-!
# Fail-fast

With fail-fast, a run does the same as without it up to the first check that fails, and stops
there.  So its results are those of the other run, cut off behind the first one that is no pass.
-/

namespace TelemetryCheck

open TelemetryCheck.Action

variable {ω τ : Type}

/-! ## Results up to the first failure -/

/-- The results before the first that is no pass, and that one. -/
def upToFailure (results : List (CheckResult τ)) : List (CheckResult τ) :=
  results.takeWhile (·.passed) ++ (results.find? fun result => !result.passed).toList

theorem upToFailure_cons (result : CheckResult τ) (rest : List (CheckResult τ)) :
    upToFailure (result :: rest) =
      if result.passed then result :: upToFailure rest else [result] := by
  cases h : result.passed with
  | true => simp [upToFailure, h]
  | false => simp [upToFailure, h]

theorem upToFailure_of_passed {results : List (CheckResult τ)}
    (h : results.all (·.passed) = true) : upToFailure results = results := by
  induction results with
  | nil => rfl
  | cons result rest ih =>
    rw [List.all_cons, Bool.and_eq_true] at h
    rw [upToFailure_cons, if_pos h.1, ih h.2]

theorem all_upToFailure (results : List (CheckResult τ)) :
    (upToFailure results).all (·.passed) = results.all (·.passed) := by
  induction results with
  | nil => rfl
  | cons result rest ih =>
    rw [upToFailure_cons]
    cases h : result.passed with
    | true => simp [h, ih]
    | false => simp [h]

/-- Only the last of them can be no pass. -/
theorem passed_of_mem_dropLast {results : List (CheckResult τ)} {result : CheckResult τ}
    (h : result ∈ (upToFailure results).dropLast) : result.passed = true := by
  induction results with
  | nil => cases h
  | cons first rest ih =>
    rw [upToFailure_cons] at h
    split at h
    · rename_i hfirst
      cases hrest : upToFailure rest with
      | nil =>
        rw [hrest] at h
        cases h
      | cons next more =>
        rw [hrest, List.dropLast_cons_cons, ← hrest] at h
        rcases List.mem_cons.mp h with rfl | hmem
        · exact hfirst
        · exact ih hmem
    · cases h

namespace Runner

def withFailFast (failFast : Bool) (r : Runner ω τ) : Runner ω τ :=
  { r with settings := { r.settings with failFast } }

/-! ## What fail-fast plays no part in -/

section Indifference

variable (r : Runner ω τ) (client : Http.Client (Bench ω)) (failFast : Bool)

theorem fetchTraces_withFailFast (query : String) (ids : List String) :
    (r.withFailFast failFast).fetchTraces query ids = r.fetchTraces query ids := by
  induction ids with
  | nil => rfl
  | cons id rest ih =>
    unfold fetchTraces
    rw [ih]
    rfl

variable [Time τ] (check : Check)

theorem perform_withFailFast : (r.withFailFast failFast).perform check = r.perform check := by
  cases check with
  | traces e =>
    unfold perform
    simp only [fetchTraces_withFailFast]
    rfl
  | _ => rfl

theorem round_withFailFast :
    (r.withFailFast failFast).round client check = r.round client check := by
  unfold Runner.round
  simp only [perform_withFailFast]
  rfl

theorem runCheck_withFailFast :
    (r.withFailFast failFast).runCheck client check = r.runCheck client check := by
  unfold runCheck plan
  simp only [round_withFailFast]
  rfl

theorem upToChecks_withFailFast : (r.withFailFast failFast).upToChecks = r.upToChecks := rfl

end Indifference

/-! ## The checks -/

section Checks

variable [Time τ] (r : Runner ω τ) (client : Http.Client (Bench ω))

/-- What checks come to one after the other: the results of those that come to one, and the failure
of the first that does not. -/
def outcomes : List Check → Running ω τ → List (CheckResult τ) × Option Failure
  | [], _ => ([], none)
  | check :: rest, b =>
    match (r.runCheck client check).runFrom b with
    | (.error f, _) => ([], some f)
    | (.ok result, b) => ((outcomes rest b).1.cons result, (outcomes rest b).2)

def endingOf (results : List (CheckResult τ)) :
    Option Failure → Except Failure (List (CheckResult τ))
  | none => .ok results
  | some f => .error f

omit [Time τ] in
theorem endingOf_cons (result : CheckResult τ) (results : List (CheckResult τ))
    (failure : Option Failure) :
    endingOf (result :: results) failure = (endingOf results failure).map (result :: ·) := by
  cases failure <;> rfl

/-- Fail-fast changes nothing before a check fails, and stops where one does. -/
theorem ending_runChecks (failFast : Bool) (checks : List Check) (b : Running ω τ) :
    (((r.withFailFast failFast).runChecks client checks).runFrom b).1 =
      if failFast && !(r.outcomes client checks b).1.all (·.passed) then
        .ok (upToFailure (r.outcomes client checks b).1)
      else endingOf (r.outcomes client checks b).1 (r.outcomes client checks b).2 := by
  induction checks generalizing b with
  | nil => cases failFast <;> rfl
  | cons check rest ih =>
    unfold runChecks outcomes
    rw [runFrom_bind, runCheck_withFailFast]
    rcases hcheck : (r.runCheck client check).runFrom b with ⟨f | result, b₁⟩
    · cases failFast <;> rfl
    have hflag : (r.withFailFast failFast).settings.failFast = failFast := rfl
    have hmore : ((do return result :: (← (r.withFailFast failFast).runChecks client rest) :
        Action (Running ω τ) (List (CheckResult τ))).runFrom b₁).1 =
          (((r.withFailFast failFast).runChecks client rest).runFrom b₁).1.map (result :: ·) := by
      rw [bind_pure_comp, runFrom_map]
    dsimp only
    rw [hflag, List.all_cons, upToFailure_cons, endingOf_cons]
    by_cases hstop : (!result.passed && failFast) = true
    · rw [if_pos hstop]
      rw [Bool.and_eq_true, Bool.not_eq_true'] at hstop
      simp only [hstop.1, hstop.2]
      cases rest <;> rfl
    · rw [if_neg hstop, hmore, ih b₁]
      cases hpassed : result.passed with
      | true =>
        rw [Bool.true_and, if_pos rfl]
        split <;> rfl
      | false =>
        have hflag : failFast = false := by simpa [hpassed] using hstop
        subst hflag
        rfl

end Checks

/-! ## The run -/

variable [Time τ] (r : Runner ω τ) (c : TestCase τ) (b : Bench ω)

def ending (failFast : Bool) : Except Failure (CaseResult τ) :=
  (((r.withFailFast failFast).complete c).runFrom b).1

def outcomesOf : Except Failure (List (CheckResult τ) × Option Failure) :=
  match r.upToChecks.runFrom (r.start c b) with
  | (.error f, _) => .error f
  | (.ok (client, checks), b) => .ok (r.outcomes client checks b)

variable {r c}

theorem ending_eq (h : r.GivesBack) (hmanual : c.manualDebug = false) (failFast : Bool) :
    r.ending c b failFast =
      match r.outcomesOf c b with
      | .error f => .error f
      | .ok (results, failure) =>
        (if failFast && !results.all (·.passed) then .ok (upToFailure results)
          else endingOf results failure).map (r.resultOf c) := by
  have hgives : (r.withFailFast failFast).GivesBack := ⟨h.stop, h.close⟩
  have hrun := ending_run hgives (r.start c b) hmanual
  refine hrun.trans ?_
  rw [upToChecks_withFailFast, outcomesOf]
  rcases r.upToChecks.runFrom (r.start c b) with ⟨f | ⟨client, checks⟩, b'⟩
  · rfl
  · dsimp only
    rw [ending_runChecks]
    rfl

/-- With fail-fast, the results are cut off. -/
theorem ending_of_stopping (h : r.GivesBack) (hmanual : c.manualDebug = false)
    {results : List (CheckResult τ)} {failure : Option Failure}
    (houtcomes : r.outcomesOf c b = .ok (results, failure)) :
    r.ending c b true =
      if results.all (·.passed) then (endingOf results failure).map (r.resultOf c)
      else .ok (r.resultOf c (upToFailure results)) := by
  rw [ending_eq b h hmanual, houtcomes]
  dsimp only
  cases results.all (·.passed) <;> rfl

theorem ending_of_continuing (h : r.GivesBack) (hmanual : c.manualDebug = false)
    {results : List (CheckResult τ)} {failure : Option Failure}
    (houtcomes : r.outcomesOf c b = .ok (results, failure)) :
    r.ending c b false = (endingOf results failure).map (r.resultOf c) := by
  rw [ending_eq b h hmanual, houtcomes]
  rfl

theorem ending_of_unopened (h : r.GivesBack) (hmanual : c.manualDebug = false) {f : Failure}
    (houtcomes : r.outcomesOf c b = .error f) (failFast : Bool) :
    r.ending c b failFast = .error f := by
  rw [ending_eq b h hmanual, houtcomes]

end Runner

/-- Compared with a run without fail-fast, a run with it is cut off and otherwise the same.  Where
the one has results, the other has those up to the first that is no pass, and it passes if and only
if the first does.  Where the one fails in a check, so does the other, unless an earlier check was
no pass; then its results end with that one.  So of its results only the last can be no pass. -/
theorem failFast_truncates [Time τ] (r : Runner ω τ) (c : TestCase τ) (b : Bench ω)
    (hmanual : c.manualDebug = false) (hgives : r.GivesBack) :
    (∀ result, r.ending c b false = .ok result →
      r.ending c b true = .ok { result with checks := upToFailure result.checks } ∧
      CaseResult.passed { result with checks := upToFailure result.checks } = result.passed) ∧
    (∀ f, r.ending c b false = .error f →
      (r.outcomesOf c b = .error f ∧ r.ending c b true = .error f) ∨
      ∃ results, r.outcomesOf c b = .ok (results, some f) ∧
        r.ending c b true =
          if results.all (·.passed) then .error f
          else .ok ⟨c.name, upToFailure results, r.logPath c⟩) ∧
    ∀ result, r.ending c b true = .ok result →
      ∀ check ∈ result.checks.dropLast, check.passed = true := by
  cases houtcomes : r.outcomesOf c b with
  | error g =>
    rw [Runner.ending_of_unopened b hgives hmanual houtcomes,
      Runner.ending_of_unopened b hgives hmanual houtcomes]
    refine ⟨fun _ h => ?_, fun f h => .inl ⟨?_, h⟩, fun _ h => ?_⟩
    · cases h
    · cases h
      rfl
    · cases h
  | ok outcomes =>
    obtain ⟨results, failure⟩ := outcomes
    rw [Runner.ending_of_continuing b hgives hmanual houtcomes,
      Runner.ending_of_stopping b hgives hmanual houtcomes]
    refine ⟨fun result h => ?_, fun f h => .inr ⟨results, ?_, ?_⟩, fun result h check hcheck => ?_⟩
    · cases failure with
      | some g => cases h
      | none =>
        cases h
        refine ⟨?_, all_upToFailure results⟩
        cases hall : results.all (·.passed) with
        | true =>
          rw [if_pos rfl, Runner.resultOf, upToFailure_of_passed hall]
          rfl
        | false => rfl
    · cases failure with
      | some g =>
        cases h
        rfl
      | none => cases h
    · rw [h]
      rfl
    · cases hall : results.all (·.passed) with
      | true =>
        rw [hall, if_pos rfl] at h
        cases failure with
        | some g => cases h
        | none =>
          cases h
          exact List.all_eq_true.mp hall check (List.dropLast_subset results hcheck)
      | false =>
        rw [hall, if_neg Bool.false_ne_true] at h
        cases h
        exact passed_of_mem_dropLast hcheck

/-! ### A check that fails between two that pass -/

/-- There is no time, so each check makes one attempt. -/
def hastyCase : TestCase Int :=
  { name := "hasty", path := ⟨"/", ["case", "oats.yaml"]⟩, dir := ⟨"/", ["case"]⟩, timeout := 0
    absentTimeout := 0
    definition :=
      { dockerCompose := some {}
        expected :=
          { composeLogs := ["ready", "gone", "is"]
            logs := [{ logql := "rolls", signal := { regexp := some "rolled" } }] } } }

theorem lateRunner_givesBack : lateRunner.GivesBack := by
  refine ⟨fun _ => rfl, fun _ b client hconnect => ?_⟩
  cases hconnect
  exact fun _ => rfl

/-- The second check finds nothing, the last one is not answered.  Without fail-fast the run fails,
with it there are two results. -/
theorem hasty_truncated :
    ∃ f results short, lateRunner.ending hastyCase ⟨0, {}, {}⟩ false = .error f ∧
      lateRunner.outcomesOf hastyCase ⟨0, {}, {}⟩ = .ok (results, some f) ∧
      lateRunner.ending hastyCase ⟨0, {}, {}⟩ true = .ok short ∧
      short.checks = upToFailure results ∧ short.checks.map CheckResult.passed = [true, false] := by
  have hfails : (lateRunner.ending hastyCase ⟨0, {}, {}⟩ false).toOption.isNone = true := by
    decide +kernel
  have hstops : (lateRunner.ending hastyCase ⟨0, {}, {}⟩ true).toOption.map
      (fun short => short.checks.map CheckResult.passed) = some [true, false] := by
    decide +kernel
  obtain ⟨-, hfailed, -⟩ :=
    failFast_truncates lateRunner hastyCase ⟨0, {}, {}⟩ rfl lateRunner_givesBack
  cases hfull : lateRunner.ending hastyCase ⟨0, {}, {}⟩ false with
  | ok result =>
    rw [hfull] at hfails
    cases hfails
  | error f =>
    cases hshort : lateRunner.ending hastyCase ⟨0, {}, {}⟩ true with
    | error g =>
      rw [hshort] at hstops
      cases hstops
    | ok short =>
      rw [hshort] at hstops hfailed
      obtain ⟨-, hunopened⟩ | ⟨results, houtcomes, hcut⟩ := hfailed f hfull
      · cases hunopened
      · refine ⟨f, results, short, rfl, houtcomes, rfl, ?_, Option.some.inj hstops⟩
        split at hcut
        · cases hcut
        · cases hcut
          rfl

end TelemetryCheck
