import TelemetryCheck.Proofs.CommandLine.Endings
import TelemetryCheck.Proofs.Running.Course

/-!
# The status of a run

No test case is run unless all of them are valid.  Then they are run in order, and the status tells
how that went: whether one of them could not be run, and else whether all of them passed.
-/

namespace TelemetryCheck

variable {ω τ : Type}

/-- A result is about the test case that was run. -/
theorem Runner.name_of_run [Time τ] {r : Runner ω τ} {b b' : Running ω τ} {result : CaseResult τ}
    (h : r.run.runFrom b = (.ok result, b')) : result.name = b.world.testCase.name := by
  cases Runner.course_run h with
  | lent _ _ _ hrun =>
    obtain ⟨-, -, hname⟩ := Runner.runWith_eq_ok hrun
    exact hname
  | owned _ _ _ _ hrun =>
    obtain ⟨-, -, hname⟩ := Runner.runWith_eq_ok hrun
    exact hname

theorem Runner.name_of_complete [Time τ] {r : Runner ω τ} {c : TestCase τ} {b b' : Bench ω}
    {result : CaseResult τ} (h : (r.complete c).runFrom b = (.ok result, b')) :
    result.name = c.name := by
  have hending : (r.run.runFrom (r.start c b)).1 = .ok result := congrArg Prod.fst h
  exact Runner.name_of_run (Prod.ext hending rfl)

namespace CommandLine

open Job Commands

theorem Job.runFrom_status (job : Job ω Unit) (b : Session ω) :
    job.status.runFrom b =
      match job.run.runFrom b with
      | (.ok (.ok ()), b) => (.ok .success, b)
      | (.ok (.error status), b) => (.ok status, b)
      | (.error f, b) => (.error f, b) := by
  rw [Job.status, Action.runFrom_bind]
  rcases job.run.runFrom b with ⟨f | status | _, b'⟩ <;> rfl

/-! ## One test case -/

section Runs

variable {prepare : TestCase τ → Action (Bench ω) (Prepared ω τ)}

/-- A test case that is run from a bench: it is prepared, run to a result or found to be of no use,
and its endpoint is closed. -/
inductive Ran (prepare : TestCase τ → Action (Bench ω) (Prepared ω τ)) (c : TestCase τ)
    (i : Bench ω) : Except Misconfiguration (CaseResult τ) → Bench ω → Prop
  | completed {p : Prepared ω τ} {result : CaseResult τ} {i₁ i₂ i₃ : Bench ω} :
      (prepare c).runFrom i = (.ok p, i₁) → p.run.runFrom i₁ = (.ok result, i₂) →
      p.close.runFrom i₂ = (.ok (), i₃) → Ran prepare c i (.ok result) i₃
  | refused {p : Prepared ω τ} {m : Misconfiguration} {i₁ i₂ i₃ : Bench ω} :
      (prepare c).runFrom i = (.ok p, i₁) →
      p.run.runFrom i₁ = (.error (.configuration m), i₂) →
      p.close.runFrom i₂ = (.ok (), i₃) → Ran prepare c i (.error m) i₃

def endLines : Except Failure (CaseResult τ) → List String
  | .error (.configuration m) => refusalLines m
  | _ => []

/-- A test case that ends the command with a failure, and what is printed about it before.  A
failure to close its endpoint takes the place of whatever the run came to. -/
inductive Escaped (prepare : TestCase τ → Action (Bench ω) (Prepared ω τ)) (c : TestCase τ)
    (i : Bench ω) : Failure → List String → Bench ω → Prop
  | unprepared {f : Failure} {i₁ : Bench ω} :
      (prepare c).runFrom i = (.error f, i₁) → Escaped prepare c i f [] i₁
  | failed {p : Prepared ω τ} {f : Failure} {i₁ i₂ i₃ : Bench ω} :
      (prepare c).runFrom i = (.ok p, i₁) → p.run.runFrom i₁ = (.error f, i₂) →
      (∀ m, f ≠ .configuration m) → p.close.runFrom i₂ = (.ok (), i₃) →
        Escaped prepare c i f [] i₃
  | unclosed {p : Prepared ω τ} {ending : Except Failure (CaseResult τ)} {f : Failure}
      {i₁ i₂ i₃ : Bench ω} :
      (prepare c).runFrom i = (.ok p, i₁) → p.run.runFrom i₁ = (ending, i₂) →
      p.close.runFrom i₂ = (.error f, i₃) → Escaped prepare c i f (endLines ending) i₃

def settled : Except Failure (CaseResult τ) → Except Failure (Except ExitStatus (CaseResult τ))
  | .ok result => .ok (.ok result)
  | .error (.configuration _) => .ok (.error .validationError)
  | .error f => .error f

theorem runFrom_runOrStop (run : Action (Bench ω) (CaseResult τ)) (b : Session ω) :
    (runOrStop run).run.runFrom b =
      (settled (run.runFrom (inner b)).1,
        printed [] (endLines (run.runFrom (inner b)).1) (outer b (run.runFrom (inner b)).2)) := by
  rw [runOrStop, runFrom_outside_bind, Action.runFrom_refusal]
  rcases run.runFrom (inner b) with ⟨f | result, i⟩
  · cases f with
    | configuration m => exact congrArg (Prod.mk _) (told_misconfiguration m (outer b i))
    | _ => exact congrArg (Prod.mk _) (printed_nil (outer b i)).symm
  · exact congrArg (Prod.mk _) (printed_nil (outer b i)).symm

theorem runFrom_closing (p : Prepared ω τ) (b : Session ω) :
    (tryFinally (runOrStop p.run) (outside p.close)).run.runFrom b =
      match p.run.runFrom (inner b) with
      | (ending, i) =>
        match p.close.runFrom i with
        | (.ok _, i) => (settled ending, printed [] (endLines ending) (outer b i))
        | (.error f, i) => (.error f, printed [] (endLines ending) (outer b i)) := by
  rw [Job.runFrom_tryFinally, runFrom_runOrStop]
  rfl

/-- One test case, between what is said before and what is said after it. -/
def turn (prepare : TestCase τ → Action (Bench ω) (Prepared ω τ)) (c : TestCase τ) :
    Job ω (CaseResult τ) := do
  let prepared ← outside (prepare c)
  tryFinally (runOrStop prepared.run) (outside prepared.close)

theorem told_announcement (c : TestCase τ) (b : Session ω) :
    told (Console.noteLine ("Running " ++ c.name ++ "...")) b = printed [] [announcement c] b := by
  unfold printed told
  rw [Console.noteLine_eq]
  rfl

theorem told_report (result : CaseResult τ) (b : Session ω) :
    told (report result) b = printed (if result.passed then [passLine result] else [])
      (if result.passed then [] else failLines result) b := by
  unfold printed told
  rw [report_eq]

/-- What is printed at the end of a run comes before what is done outside after it. -/
theorem turn_cases (prepare : TestCase τ → Action (Bench ω) (Prepared ω τ)) (c : TestCase τ)
    (b : Session ω) :
    (∃ result i, Ran prepare c (inner b) (.ok result) i ∧
        (turn prepare c).run.runFrom b = (.ok (.ok result), outer b i)) ∨
      (∃ m i, Ran prepare c (inner b) (.error m) i ∧
        (turn prepare c).run.runFrom b =
          (.ok (.error .validationError), printed [] (refusalLines m) (outer b i))) ∨
      ∃ f lines i, Escaped prepare c (inner b) f lines i ∧
        (turn prepare c).run.runFrom b = (.error f, printed [] lines (outer b i)) := by
  rw [turn, runFrom_outside_bind]
  cases hprepare : (prepare c).runFrom (inner b) with
  | mk ending i₁ =>
  cases ending with
  | error f => exact .inr (.inr ⟨f, [], i₁, .unprepared hprepare, by rw [printed_nil]⟩)
  | ok p =>
  dsimp only
  have hbench : inner (outer b i₁) = i₁ := rfl
  rw [runFrom_closing, hbench]
  cases hrun : p.run.runFrom i₁ with
  | mk ending i₂ =>
  dsimp only
  cases hclose : p.close.runFrom i₂ with
  | mk closed i₃ =>
  cases closed with
  | error f => exact .inr (.inr ⟨f, endLines ending, i₃, .unclosed hprepare hrun hclose, rfl⟩)
  | ok u =>
  cases ending with
  | ok result =>
    refine .inl ⟨result, i₃, .completed hprepare hrun hclose, ?_⟩
    exact congrArg (Prod.mk _) (printed_nil _)
  | error f =>
  cases f with
  | configuration m => exact .inr (.inl ⟨m, i₃, .refused hprepare hrun hclose, rfl⟩)
  | _ =>
    refine .inr (.inr ⟨_, [], i₃, .failed hprepare hrun (fun m hm => ?_) hclose, rfl⟩)
    cases hm

theorem runFrom_runCases_cons (prepare : TestCase τ → Action (Bench ω) (Prepared ω τ))
    (c : TestCase τ) (rest : List (TestCase τ)) (b : Session ω) :
    (runCases prepare (c :: rest)).run.runFrom b =
      (turn prepare c >>= fun result => say (report result) >>= fun _ =>
        runCases prepare rest >>= fun more => pure (result :: more)).run.runFrom
          (printed [] [announcement c] b) := by
  rw [runCases, runFrom_say_bind, told_announcement, turn, runFrom_outside_bind,
    Job.runFrom_bind, runFrom_outside_bind]
  rcases (prepare c).runFrom (inner (printed [] [announcement c] b)) with ⟨f | p, i⟩
  · rfl
  · exact Job.runFrom_bind _ _ _

/-- The first test case comes to a result and the others are run after it, or it ends the
command. -/
theorem runCases_cons (prepare : TestCase τ → Action (Bench ω) (Prepared ω τ)) (c : TestCase τ)
    (rest : List (TestCase τ)) (b : Session ω) :
    (∃ result i, Ran prepare c (inner b) (.ok result) i ∧
        (runCases prepare (c :: rest)).run.runFrom b =
          (runCases prepare rest >>= fun more => pure (result :: more)).run.runFrom
            (printed (runOut (c, result)) (runErr (c, result)) (outer b i))) ∨
      (∃ m i, Ran prepare c (inner b) (.error m) i ∧
        (runCases prepare (c :: rest)).run.runFrom b =
          (.ok (.error .validationError),
            printed [] (announcement c :: refusalLines m) (outer b i))) ∨
      ∃ f lines i, Escaped prepare c (inner b) f lines i ∧
        (runCases prepare (c :: rest)).run.runFrom b =
          (.error f, printed [] (announcement c :: lines) (outer b i)) := by
  rw [runFrom_runCases_cons, Job.runFrom_bind]
  have hlines : ∀ lines i, printed [] lines (outer (printed [] [announcement c] b) i) =
      printed [] (announcement c :: lines) (outer b i) := fun lines i =>
    printed_printed [] [announcement c] [] lines (outer b i)
  rcases turn_cases prepare c (printed [] [announcement c] b) with
    ⟨result, i, hran, hturn⟩ | ⟨m, i, hran, hturn⟩ | ⟨f, lines, i, hescaped, hturn⟩
  · refine .inl ⟨result, i, hran, ?_⟩
    rw [hturn]
    dsimp only
    rw [runFrom_say_bind, told_report]
    exact congrArg (Action.runFrom _) (printed_printed [] [announcement c] _ _ (outer b i))
  · rw [hturn, hlines]
    exact .inr (.inl ⟨m, i, hran, rfl⟩)
  · rw [hturn, hlines]
    exact .inr (.inr ⟨f, lines, i, hescaped, rfl⟩)

/-! ## One test case after the other -/

/-- Test cases that are run one after the other, each to a result of its own. -/
inductive InTurn (prepare : TestCase τ → Action (Bench ω) (Prepared ω τ)) :
    List (TestCase τ) → Bench ω → List (CaseResult τ) → Bench ω → Prop
  | nil {i : Bench ω} : InTurn prepare [] i [] i
  | cons {c : TestCase τ} {rest : List (TestCase τ)} {result : CaseResult τ}
      {results : List (CaseResult τ)} {i i₁ i' : Bench ω} :
      Ran prepare c i (.ok result) i₁ → result.name = c.name →
        InTurn prepare rest i₁ results i' → InTurn prepare (c :: rest) i (result :: results) i'

def Named (prepare : TestCase τ → Action (Bench ω) (Prepared ω τ)) : Prop :=
  ∀ c p i i₁ i₂ i₃ result, (prepare c).runFrom i = (.ok p, i₁) →
    p.run.runFrom i₂ = (.ok result, i₃) → result.name = c.name

theorem Named.name_of_ran (h : Named prepare) {c : TestCase τ} {i i' : Bench ω}
    {result : CaseResult τ} (hran : Ran prepare c i (.ok result) i') : result.name = c.name := by
  cases hran with
  | completed hprepare hrun _ => exact h _ _ _ _ _ _ _ hprepare hrun

theorem InTurn.names_eq {cases : List (TestCase τ)} {results : List (CaseResult τ)}
    {i i' : Bench ω} (h : InTurn prepare cases i results i') :
    results.map (·.name) = cases.map (·.name) := by
  induction h with
  | nil => rfl
  | cons _ hname _ ih => rw [List.map_cons, List.map_cons, hname, ih]

def printedRuns (runs : List (TestCase τ × CaseResult τ)) (out err : List String) :
    Session ω → Session ω :=
  printed (runs.flatMap runOut ++ out) (runs.flatMap runErr ++ err)

theorem printedRuns_cons (run : TestCase τ × CaseResult τ)
    (runs : List (TestCase τ × CaseResult τ)) (out err : List String) (b : Session ω) :
    printedRuns runs out err (printed (runOut run) (runErr run) b) =
      printedRuns (run :: runs) out err b := by
  unfold printedRuns
  rw [printed_printed, List.flatMap_cons, List.flatMap_cons, List.append_assoc, List.append_assoc]

theorem printed_printedRuns (runs : List (TestCase τ × CaseResult τ)) (out err : List String)
    (b : Session ω) :
    printed out err (printedRuns runs [] [] b) = printedRuns runs out err b := by
  unfold printedRuns
  rw [printed_printed, List.append_nil, List.append_nil]

/-- Either every test case comes to a result, or they do so up to one that ends the command. -/
theorem runCases_cases (hnamed : Named prepare) (cases : List (TestCase τ)) (b : Session ω) :
    (∃ results i, InTurn prepare cases (inner b) results i ∧
        (runCases prepare cases).run.runFrom b =
          (.ok (.ok results), printedRuns (cases.zip results) [] [] (outer b i))) ∨
      ∃ done c rest results i, cases = done ++ c :: rest ∧
        InTurn prepare done (inner b) results i ∧
        ((∃ m i', Ran prepare c i (.error m) i' ∧
            (runCases prepare cases).run.runFrom b =
              (.ok (.error .validationError),
                printedRuns (done.zip results) [] (announcement c :: refusalLines m)
                  (outer b i'))) ∨
          ∃ f lines i', Escaped prepare c i f lines i' ∧
            (runCases prepare cases).run.runFrom b =
              (.error f,
                printedRuns (done.zip results) [] (announcement c :: lines) (outer b i'))) := by
  induction cases generalizing b with
  | nil => exact .inl ⟨[], inner b, .nil, congrArg (Prod.mk _) (printed_nil b).symm⟩
  | cons c rest ih =>
    rcases runCases_cons prepare c rest b with
      ⟨result, i, hran, hrun⟩ | ⟨m, i, hran, hrun⟩ | ⟨f, lines, i, hescaped, hrun⟩
    · rw [hrun, Job.runFrom_bind]
      have hname := hnamed.name_of_ran hran
      rcases ih (printed (runOut (c, result)) (runErr (c, result)) (outer b i)) with
        ⟨results, i', hturn, hrest⟩ |
          ⟨done, c', more, results, i₁, rfl, hturn, hend⟩
      · refine .inl ⟨result :: results, i', .cons hran hname hturn, ?_⟩
        rw [hrest]
        exact congrArg (Prod.mk _) (printedRuns_cons (c, result) _ _ _ (outer b i'))
      · refine .inr ⟨c :: done, c', more, result :: results, i₁, rfl, .cons hran hname hturn, ?_⟩
        rcases hend with ⟨m, i', hrefused, hrest⟩ | ⟨f, lines, i', hescaped, hrest⟩
        · refine .inl ⟨m, i', hrefused, ?_⟩
          rw [hrest]
          exact congrArg (Prod.mk _) (printedRuns_cons (c, result) _ _ _ (outer b i'))
        · refine .inr ⟨f, lines, i', hescaped, ?_⟩
          rw [hrest]
          exact congrArg (Prod.mk _) (printedRuns_cons (c, result) _ _ _ (outer b i'))
    · exact .inr ⟨[], c, rest, [], inner b, rfl, .nil, .inl ⟨m, i, hran, hrun⟩⟩
    · exact .inr ⟨[], c, rest, [], inner b, rfl, .nil, .inr ⟨f, lines, i, hescaped, hrun⟩⟩

theorem told_passed (count : Nat) (b : Session ω) :
    told (Console.printLine ("All " ++ Decimal.natText count ++ " test cases passed")) b =
      printed ["All " ++ toString count ++ " test cases passed"] [] b := by
  unfold printed told
  rw [Console.printLine_eq]
  rfl

theorem told_failed (failed : List String) (total : Nat) (b : Session ω) :
    told (Console.error (Decimal.natText failed.length ++ " of " ++ Decimal.natText total ++
        " test cases failed") [("failed", some (", ".intercalate failed))]) b =
      printed [] ["Error: " ++ toString failed.length ++ " of " ++ toString total ++
        " test cases failed (failed=" ++ ", ".intercalate failed ++ ")"] b := by
  have hline : ∀ count names : String,
      count ++ " test cases failed" ++ (" (" ++ "failed" ++ "=" ++ names ++ ")") =
        count ++ " test cases failed (failed=" ++ names ++ ")" := by
    intro count names
    refine String.toList_inj.mp ?_
    simp
  rw [told_error, countText, contextText_one, hline]

theorem runFrom_conclude (results : List (CaseResult τ)) (b : Session ω) :
    ∃ i, Untouched b i ∧
      (conclude results).run.runFrom b =
        (.ok (if results.all (·.passed) then .ok () else .error .checkFailed),
          printed (closingOut results) (closingErr results) (outer b i)) := by
  have hempty : ((results.filter fun r => !r.passed).map (·.name)).isEmpty =
      results.all (·.passed) := by
    rw [List.isEmpty_map, Bool.eq_iff_iff, List.isEmpty_iff, List.filter_eq_nil_iff,
      List.all_eq_true]
    simp
  let failed := (results.filter fun r => !r.passed).map (·.name)
  refine ⟨{ inner b with journal := b.journal.log ⟨.info, "run_finished",
    [("test_cases", .int results.length), ("failed", .int failed.length)]⟩ }, ⟨rfl, rfl⟩, ?_⟩
  unfold conclude closingOut closingErr
  rw [← hempty, runFrom_outside_bind]
  show ((if failed.isEmpty = true then _ else _ : Job ω Unit)).run.runFrom _ = _
  cases hfailed : failed.isEmpty with
  | true => exact congrArg (Prod.mk _) (told_passed results.length _)
  | false => exact congrArg (Prod.mk _) (told_failed failed results.length _)

/-! ## All test cases -/

def Valid (files : Files) (c : TestCase τ) : Prop :=
  unanswered? files c = none ∧ refused? files c = none

/-- How a command ends that runs all test cases: with the code of a status or with a failure, and
with what has been printed and done by then.  The invalid ones are all reported before any is run;
else they are run in order, up to one that is of no use or that ends the command with a failure. -/
inductive Exit (prepare : TestCase τ → Action (Bench ω) (Prepared ω τ))
    (cases : List (TestCase τ)) (b : Session ω) : Except Failure Nat → Session ω → Prop
  | unanswered {f : Fault} {i : Bench ω} : cases.findSome? (unanswered? b.files) = some f →
      Untouched b i → Exit prepare cases b (.error (.fault f)) (outer b i)
  | invalid {i : Bench ω} : (∀ c ∈ cases, unanswered? b.files c = none) →
      (∃ c ∈ cases, (refused? b.files c).isSome) → Untouched b i →
        Exit prepare cases b (.ok 5)
          (printed [] (invalidLines (cases.filterMap (refused? b.files)) cases.length) (outer b i))
  | stopped {done rest : List (TestCase τ)} {c : TestCase τ} {results : List (CaseResult τ)}
      {i₀ i i' : Bench ω} {m : Misconfiguration} : (∀ c ∈ cases, Valid b.files c) →
      Untouched b i₀ → cases.map TestCase.withPorts = done ++ c :: rest →
      InTurn prepare done i₀ results i → Ran prepare c i (.error m) i' →
        Exit prepare cases b (.ok 5)
          (printedRuns (done.zip results) [] (announcement c :: refusalLines m) (outer b i'))
  | escaped {done rest : List (TestCase τ)} {c : TestCase τ} {results : List (CaseResult τ)}
      {i₀ i i' : Bench ω} {f : Failure} {lines : List String} : (∀ c ∈ cases, Valid b.files c) →
      Untouched b i₀ → cases.map TestCase.withPorts = done ++ c :: rest →
      InTurn prepare done i₀ results i → Escaped prepare c i f lines i' →
        Exit prepare cases b (.error f)
          (printedRuns (done.zip results) [] (announcement c :: lines) (outer b i'))
  | finished {results : List (CaseResult τ)} {i₀ i i' : Bench ω} :
      (∀ c ∈ cases, Valid b.files c) → Untouched b i₀ →
      InTurn prepare (cases.map TestCase.withPorts) i₀ results i →
      results.map (·.name) = cases.map (·.name) → i'.world = i.world → i'.files = i.files →
        Exit prepare cases b (.ok (if results.all (·.passed) then 0 else 6))
          (printedRuns ((cases.map TestCase.withPorts).zip results) (closingOut results)
            (closingErr results) (outer b i'))

/-- Some question has no answer, or some test case is invalid, or all of them are run.  How they are
prepared matters only then. -/
theorem runAll_cases (cases : List (TestCase τ)) (b : Session ω) :
    ∃ i, Untouched b i ∧
      ((∃ f, cases.findSome? (unanswered? b.files) = some f ∧
          ∀ prepare : TestCase τ → Action (Bench ω) (Prepared ω τ),
            (runAll prepare cases).run.runFrom b = (.error (.fault f), outer b i)) ∨
        ((∀ c ∈ cases, unanswered? b.files c = none) ∧
          (∃ c ∈ cases, (refused? b.files c).isSome) ∧
          ∀ prepare : TestCase τ → Action (Bench ω) (Prepared ω τ),
            (runAll prepare cases).run.runFrom b =
              (.ok (.error .validationError),
                printed [] (invalidLines (cases.filterMap (refused? b.files)) cases.length)
                  (outer b i))) ∨
        (∀ c ∈ cases, Valid b.files c) ∧
          ∀ prepare : TestCase τ → Action (Bench ω) (Prepared ω τ),
            (runAll prepare cases).run.runFrom b =
              (runCases prepare (cases.map TestCase.withPorts) >>= conclude).run.runFrom
                (outer b i)) := by
  obtain ⟨i, huntouched, hvalid⟩ := runFrom_requireValid cases b
  refine ⟨i, huntouched, ?_⟩
  have hrun (prepare : TestCase τ → Action (Bench ω) (Prepared ω τ)) :=
    Job.runFrom_bind (requireValid cases) (fun cases => runCases prepare cases >>= conclude) b
  rw [hvalid] at hrun
  cases hanswered : cases.findSome? (unanswered? b.files) with
  | some f =>
    rw [hanswered] at hrun
    exact .inl ⟨f, rfl, hrun⟩
  | none =>
  rw [hanswered] at hrun
  rw [List.findSome?_eq_none_iff] at hanswered
  cases hrefused : cases.filterMap (refused? b.files) with
  | cons m more =>
    rw [hrefused] at hrun
    obtain ⟨c, hc, hm⟩ := List.mem_filterMap.mp (hrefused ▸ List.mem_cons_self : m ∈ _)
    exact .inr (.inl ⟨hanswered, ⟨c, hc, by rw [hm]; rfl⟩, hrun⟩)
  | nil =>
    rw [hrefused] at hrun
    rw [List.filterMap_eq_nil_iff] at hrefused
    have hlet : cases.map (letIn b.files) = cases.map TestCase.withPorts := by
      refine List.map_congr_left fun c hc => ?_
      rw [letIn, hrefused c hc]
      rfl
    rw [hlet] at hrun
    exact .inr (.inr ⟨fun c hc => ⟨hanswered c hc, hrefused c hc⟩, hrun⟩)

/-- Valid test cases are run up to one that ends the command, or all of them to their results. -/
theorem exit_of_valid (hnamed : Named prepare) {cases : List (TestCase τ)} {b : Session ω}
    {i : Bench ω} (hall : ∀ c ∈ cases, Valid b.files c) (huntouched : Untouched b i) :
    ∃ ending b', (runCases prepare (cases.map TestCase.withPorts) >>= conclude).status.runFrom
        (outer b i) = (ending, b') ∧
      Exit prepare cases b (ending.map ExitStatus.code) b' := by
  rw [Job.runFrom_status, Job.runFrom_bind]
  rcases runCases_cases hnamed (cases.map TestCase.withPorts) (outer b i) with
    ⟨results, i', hturn, hruns⟩ | ⟨done, c, rest, results, i₁, hcases, hturn,
      ⟨m, i', hran, hruns⟩ | ⟨f, lines, i', hescaped, hruns⟩⟩
  · rw [hruns]
    dsimp only
    obtain ⟨i₂, ⟨hworld, hfiles⟩, hconclude⟩ := runFrom_conclude results
      (printedRuns ((cases.map TestCase.withPorts).zip results) [] [] (outer (outer b i) i'))
    rw [hconclude]
    have hnames : results.map (·.name) = cases.map (·.name) := by
      rw [hturn.names_eq, List.map_map]
      rfl
    have hexit := Exit.finished hall huntouched hturn hnames hworld hfiles
    have hclosing : printed (closingOut results) (closingErr results)
        (outer (printedRuns ((cases.map TestCase.withPorts).zip results) [] []
          (outer (outer b i) i')) i₂) =
        printedRuns ((cases.map TestCase.withPorts).zip results) (closingOut results)
          (closingErr results) (outer b i₂) :=
      printed_printedRuns _ _ _ (outer b i₂)
    rw [hclosing]
    cases hpassed : results.all (·.passed) with
    | true =>
      rw [hpassed] at hexit
      exact ⟨_, _, rfl, hexit⟩
    | false =>
      rw [hpassed] at hexit
      exact ⟨_, _, rfl, hexit⟩
  · rw [hruns]
    exact ⟨_, _, rfl, .stopped hall huntouched hcases hturn hran⟩
  · rw [hruns]
    exact ⟨_, _, rfl, .escaped hall huntouched hcases hturn hescaped⟩

theorem exit_runAll (hnamed : Named prepare) (cases : List (TestCase τ)) (b : Session ω) :
    ∃ ending b', (runAll prepare cases).status.runFrom b = (ending, b') ∧
      Exit prepare cases b (ending.map ExitStatus.code) b' := by
  obtain ⟨i, huntouched, ⟨f, hfault, hrun⟩ | ⟨hanswered, hrefused, hrun⟩ | ⟨hall, hrun⟩⟩ :=
    runAll_cases cases b
  · rw [Job.runFrom_status, hrun prepare]
    exact ⟨_, _, rfl, .unanswered hfault huntouched⟩
  · rw [Job.runFrom_status, hrun prepare]
    exact ⟨_, _, rfl, .invalid hanswered hrefused huntouched⟩
  · rw [Job.runFrom_status, hrun prepare, ← Job.runFrom_status]
    exact exit_of_valid hnamed hall huntouched

/-- How test cases are prepared does not matter where one of them is invalid: none is. -/
theorem status_runAll_of_refused {cases : List (TestCase τ)} {b : Session ω}
    (hinvalid : ∃ c ∈ cases, (refused? b.files c).isSome)
    (prepare prepare' : TestCase τ → Action (Bench ω) (Prepared ω τ)) :
    (runAll prepare cases).status.runFrom b = (runAll prepare' cases).status.runFrom b := by
  rw [Job.runFrom_status, Job.runFrom_status]
  obtain ⟨i, -, ⟨f, -, hrun⟩ | ⟨-, -, hrun⟩ | ⟨hall, -⟩⟩ := runAll_cases cases b
  · rw [hrun prepare, hrun prepare']
  · rw [hrun prepare, hrun prepare']
  · obtain ⟨c, hc, hsome⟩ := hinvalid
    rw [(hall c hc).2] at hsome
    cases hsome

end Runs

theorem told_nothing (base : Path) (b : Session ω) :
    told (Console.warn "No test cases found" [("path", some base.toText)]) b =
      printed [] ["Warning: No test cases found (path=" ++ base.toText ++ ")"] b := by
  have hline : "Warning: " ++ "No test cases found" ++ contextText [("path", some base.toText)] =
      "Warning: No test cases found (path=" ++ base.toText ++ ")" := by
    rw [contextText_one]
    refine String.toList_inj.mp ?_
    simp
  unfold printed told
  rw [Console.warn, Console.noteLine_eq, hline]

theorem named_prepare (s : Surroundings ω) (settings : Settings) : Named (prepare s settings) := by
  intro c p i i₁ i₂ i₃ result hprepare hrun
  obtain ⟨f, -, hf⟩ | ⟨client, i', -, hrest⟩ := Action.bind_cases hprepare
  · cases hf
  cases hrest
  exact Runner.name_of_complete hrun

def idle : Surroundings Unit where
  environment := []
  clock := ⟨pure 0.0, fun _ => pure ()⟩
  network := ⟨fun _ => throw .unfinished⟩
  runScript _ := throw .unfinished
  offers _ := []
  takePorts _ := pure ()
  rounds := 0

def blankSession : Session Unit where
  world := { outside := () }
  files := { tree := .directory [("oats.yaml", .file (.bytes "".toUTF8))] }

def blankOrder : Order := { command := .run, path := some ⟨"/", ["oats.yaml"]⟩ }

def blankStart : Session Unit :=
  { blankSession with world := { blankSession.world with logging := [(.info, false)] } }

theorem settings_blank : (Commands.settings idle.environment blankOrder).run.runFrom blankSession =
    (.ok (.ok {}), blankStart) := rfl

def foundInvalid
    (found : Except Failure (Except ExitStatus (List (TestCase Float))) × Session Unit) : Bool :=
  (found.1.toOption.bind Except.toOption).any fun cases =>
    cases.all (fun c => (unanswered? found.2.files c).isNone) &&
      cases.any fun c => (refused? found.2.files c).isSome

theorem discover_blank : ∃ cases b, (discover idle {} blankOrder).run.runFrom blankStart =
    (.ok (.ok cases), b) ∧ (∀ c ∈ cases, unanswered? b.files c = none) ∧
      ∃ c ∈ cases, (refused? b.files c).isSome := by
  have hblank : foundInvalid ((discover idle {} blankOrder).run.runFrom blankStart) = true := by
    decide +kernel
  generalize (discover idle {} blankOrder).run.runFrom blankStart = found at hblank ⊢
  rcases found with ⟨f | status | cases, b⟩
  · cases hblank
  · cases hblank
  · obtain ⟨hanswered, hrefused⟩ := Bool.and_eq_true_iff.mp hblank
    rw [List.all_eq_true] at hanswered
    rw [List.any_eq_true] at hrefused
    exact ⟨cases, b, rfl, fun c hc => Option.isNone_iff_eq_none.mp (hanswered c hc), hrefused⟩

def blankConsole : Console where
  err := "Error: invalid test case 'run-oats' (/oats.yaml):\n" ++
    "  - either docker-compose or kubernetes must be set\n" ++
    "  - no expected metrics, traces, logs or profiles\n" ++
    "Error: 1 of 1 test cases are invalid\n"

end CommandLine
end TelemetryCheck
