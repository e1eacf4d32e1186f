import TelemetryCheck.Proofs.Running.CheckVerdict
import TelemetryCheck.Proofs.Running.Course

/-!
# What a pass covers

A test case that has passed has one passed check for each of its expectations that applies to the
active variant of the matrix.  So something was checked if and only if an expectation applies:
validation counts the expectations of all variants together, and a variant that none of them is for
passes without a check.
-/

namespace TelemetryCheck

variable {ω τ : Type}

/-! ## The results of the checks -/

/-- Where every result is a pass, there is one for each check. -/
theorem checks_of_runChecks [Time τ] {r : Runner ω τ} {client : Http.Client (Bench ω)}
    {checks : List Check} {b b' : Running ω τ} {results : List (CheckResult τ)}
    (h : (r.runChecks client checks).runFrom b = (.ok results, b'))
    (hpassed : ∀ result ∈ results, result.passed = true) :
    results.map CheckResult.check = checks := by
  induction checks generalizing b results with
  | nil =>
    cases h
    rfl
  | cons check rest ih =>
    have hresult : ∀ {result : CheckResult τ} {b₁ : Running ω τ},
        (r.runCheck client check).runFrom b = (.ok result, b₁) → result.check = check := by
      intro result b₁ hcheck
      obtain ⟨_, _, _, _, _, _, polled, _, -, -, -, -, -, hending⟩ := Runner.runCheck_cases hcheck
      cases polled with
      | error f => cases hending
      | ok poll =>
        cases hending
        rfl
    obtain ⟨f, -, hf⟩ | ⟨result, b₁, hcheck, ⟨hfailed, hending, -⟩ | ⟨more, hmore, hending⟩⟩ :=
      Runner.runChecks_cons_cases h
    · cases hf
    · cases hending
      have hstopped := hpassed result (List.mem_singleton.mpr rfl)
      rw [hfailed] at hstopped
      cases hstopped
    · cases more with
      | error f => cases hending
      | ok others =>
        cases hending
        rw [List.forall_mem_cons] at hpassed
        rw [List.map_cons, hresult hcheck, ih hmore hpassed.2]

/-! ## From the run to its checks -/

def SameChecks (c c' : TestCase τ) : Prop :=
  c'.definition = c.definition ∧ c'.matrixVariant = c.matrixVariant ∧
    c'.manualDebug = c.manualDebug

/-- A run with a result has done the work that the result tells of. -/
theorem work_of_run [Time τ] {r : Runner ω τ} {b b' : Running ω τ} {result : CaseResult τ}
    (h : r.run.runFrom b = (.ok result, b')) :
    ∃ client b₁ b₂, SameChecks b.world.testCase b₁.world.testCase ∧
      (r.work client).runFrom b₁ = (.ok result.checks, b₂) := by
  have hwith : ∀ {client : Http.Client (Bench ω)} {b₁ : Running ω τ},
      SameChecks b.world.testCase b₁.world.testCase →
      (r.runWith b.world.testCase.withPorts client).runFrom b₁ = (.ok result, b') →
        ∃ b₂ b₃, SameChecks b.world.testCase b₂.world.testCase ∧
          (r.work client).runFrom b₂ = (.ok result.checks, b₃) := by
    intro client b₁ hcase hrun
    obtain ⟨b₂, hlogged, -⟩ := Runner.runWith_eq_ok hrun
    obtain ⟨f, hf, -⟩ | ⟨b₄, b₅, hopened, hstarted, -⟩ := Runner.runLogged_cases hlogged
    · cases hf
    generalize hresults : (Except.ok result.checks : Except Failure _) = ending at hstarted
    cases hstarted with
    | refused _ => cases hresults
    | @served b₆ b₇ b₈ b₉ _ now stopped ending hstart hnow hdeadline hwork hstop =>
      cases stopped with
      | error f => cases hresults
      | ok _ =>
        cases hresults
        have hb₆ := world_outside hstart
        have hb₇ := world_outside hnow
        refine ⟨b₈, b₉, ?_, hwork⟩
        rw [hdeadline, hb₇, hb₆, hopened]
        exact hcase
  cases Runner.course_run h with
  | lent _ hb₁ _ hrun =>
    obtain ⟨b₂, b₃, hcase, hwork⟩ := hwith (by rw [hb₁]; exact ⟨rfl, rfl, rfl⟩) hrun
    exact ⟨_, b₂, b₃, hcase, hwork⟩
  | owned _ hb₁ _ hconnect hrun =>
    have hb₂ := world_outside hconnect
    obtain ⟨b₃, b₄, hcase, hwork⟩ := hwith (by rw [hb₂, hb₁]; exact ⟨rfl, rfl, rfl⟩) hrun
    exact ⟨_, b₃, b₄, hcase, hwork⟩

theorem mem_all (kind : CheckKind) : kind ∈ CheckKind.all := by
  cases kind <;> decide

/-- A test case that passes has, in the order of the kinds, exactly one passed check for each of
its expectations that applies to the active variant.  So something was checked if and only if one of
them applies. -/
theorem pass_covers_applicable [Time τ] (r : Runner ω τ) (c : TestCase τ)
    (horder : r.order = CheckKind.all) (hmanual : c.manualDebug = false) {b b' : Bench ω}
    {result : CaseResult τ} (h : (r.complete c).runFrom b = (.ok result, b'))
    (hpassed : result.passed = true) :
    result.checks.map CheckResult.check =
        (c.definition.expected.checksIn CheckKind.all).filter (Runner.appliesTo c.matrixVariant) ∧
      (∀ check ∈ result.checks, check.passed = true) ∧
      (result.checks ≠ [] ↔ ∃ kind, ∃ check ∈ c.definition.expected.checks kind,
        given? check.condition = none ∨ given? check.condition = c.matrixVariant) := by
  rw [Runner.runFrom_complete] at h
  have hending : (r.run.runFrom (r.start c b)).1 = .ok result := congrArg Prod.fst h
  have hrun : r.run.runFrom (r.start c b) = (.ok result, (r.run.runFrom (r.start c b)).2) :=
    Prod.ext hending rfl
  obtain ⟨client, b₁, b₂, ⟨hdefinition, hvariant, hdebug⟩, hwork⟩ := work_of_run hrun
  obtain ⟨b₃, -, hchecks⟩ := Runner.work_cases (hdebug.trans hmanual) hwork
  have hall : ∀ check ∈ result.checks, check.passed = true := List.all_eq_true.mp hpassed
  have hmap : result.checks.map CheckResult.check = r.checksFor c := by
    rw [checks_of_runChecks hchecks hall, Runner.checksFor, hdefinition, hvariant]
    rfl
  have hne : result.checks ≠ [] ↔ r.checksFor c ≠ [] := by
    rw [← hmap, ne_eq, ne_eq, List.map_eq_nil_iff]
  refine ⟨?_, hall, ?_⟩
  · rw [hmap, Runner.checksFor, horder]
  · rw [hne, Runner.checksFor_ne_nil_iff, horder]
    constructor
    · intro h
      obtain ⟨kind, -, happlies⟩ := h
      exact ⟨kind, happlies⟩
    · intro h
      obtain ⟨kind, happlies⟩ := h
      exact ⟨kind, mem_all kind, happlies⟩

/-! ### A variant that no log expectation is for -/

/-- The only log expectation is for another variant than the active one. -/
def otherVariantCase (messages : List String) : TestCase Int :=
  { name := "other", path := ⟨"/", ["case", "oats.yaml"]⟩, dir := ⟨"/", ["case"]⟩
    matrixVariant := some "default", timeout := 5, absentTimeout := 5
    definition :=
      { dockerCompose := some {}
        matrix := [{ name := "default" }, { name := "native" }]
        expected :=
          { composeLogs := messages
            logs := [{
              logql := "rolls"
              signal := { regexp := some "rolled", matrixCondition := some "native" } }] } } }

theorem ready_passes_covered :
    ∃ result, ((lateRunner.complete (otherVariantCase ["ready"])).runFrom ⟨0, {}, {}⟩).1 =
        .ok result ∧
      result.checks.map CheckResult.check = [.composeLogs "ready"] := by
  have hpassed : (match ((lateRunner.complete (otherVariantCase ["ready"])).runFrom
      ⟨0, {}, {}⟩).1 with
      | .ok result => result.passed
      | .error _ => false) = true := by
    decide +kernel
  cases hrun : (lateRunner.complete (otherVariantCase ["ready"])).runFrom ⟨0, {}, {}⟩ with
  | mk ending after =>
    rw [hrun] at hpassed
    cases ending with
    | error f => cases hpassed
    | ok result =>
      obtain ⟨hchecks, -, -⟩ :=
        pass_covers_applicable lateRunner (otherVariantCase ["ready"]) rfl rfl hrun hpassed
      refine ⟨result, rfl, hchecks.trans ?_⟩
      decide +kernel

/-- Validation accepts the test case, because there is an expectation, and the run passes although
no check is made. -/
theorem pass_without_checks :
    ∃ result, ((lateRunner.complete (otherVariantCase [])).runFrom ⟨0, {}, {}⟩).1 = .ok result ∧
      result.passed = true ∧ result.checks = [] := by
  have hpassed : (match ((lateRunner.complete (otherVariantCase [])).runFrom ⟨0, {}, {}⟩).1 with
      | .ok result => result.passed && result.checks.isEmpty
      | .error _ => false) = true := by
    decide +kernel
  cases hrun : ((lateRunner.complete (otherVariantCase [])).runFrom ⟨0, {}, {}⟩).1 with
  | error f =>
    rw [hrun] at hpassed
    cases hpassed
  | ok result =>
    rw [hrun, Bool.and_eq_true, List.isEmpty_iff] at hpassed
    exact ⟨result, rfl, hpassed.1, hpassed.2⟩

end TelemetryCheck
