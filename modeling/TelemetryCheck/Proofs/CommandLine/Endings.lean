import TelemetryCheck.Proofs.CommandLine.Printing
import TelemetryCheck.Proofs.Inclusion.Escapes
import TelemetryCheck.Proofs.Suite.Reading
import TelemetryCheck.Proofs.Validation.Escapes

/-!
# How commands end

Every command finds its test cases and lets them in before it does anything with them.  Where there
is something to report, about a definition that cannot be loaded or about test cases that are not
valid, the command ends with the status for that.  What escapes the reports ends it as a fault.
-/

namespace TelemetryCheck
namespace CommandLine

open Job

variable {ω α β : Type}

def inner (b : Session ω) : Bench ω := b.withWorld b.world.outside

def Untouched (b : Session ω) (i : Bench ω) : Prop := i.world = b.world.outside ∧ i.files = b.files

namespace Job

/-- What a job comes to: a result or a status, or a failure. -/
def ending (job : Job ω α) (b : Session ω) : Except Failure (Except ExitStatus α) :=
  (job.run.runFrom b).1

theorem runFrom_bind (job : Job ω α) (next : α → Job ω β) (b : Session ω) :
    (job >>= next).run.runFrom b =
      match job.run.runFrom b with
      | (.ok (.ok x), b) => (next x).run.runFrom b
      | (.ok (.error status), b) => (.ok (.error status), b)
      | (.error f, b) => (.error f, b) := by
  rw [ExceptT.run_bind, Action.runFrom_bind]
  rcases job.run.runFrom b with ⟨f | status | x, b'⟩ <;> rfl

def outer (b : Session ω) (i : Bench ω) : Session ω :=
  i.withWorld { b.world with outside := i.world }

theorem runFrom_outside (a : Action (Bench ω) α) (b : Session ω) :
    (outside a).run.runFrom b =
      ((a.runFrom (inner b)).1.map .ok, outer b (a.runFrom (inner b)).2) := by
  rw [outside, ofAction, ExceptT.run_lift, Action.runFrom_map, Action.runFrom_onPart]
  rfl

theorem runFrom_outside_bind (a : Action (Bench ω) α) (next : α → Job ω β) (b : Session ω) :
    (outside a >>= next).run.runFrom b =
      match a.runFrom (inner b) with
      | (.ok x, i) => (next x).run.runFrom (outer b i)
      | (.error f, i) => (.error f, outer b i) := by
  rw [runFrom_bind, runFrom_outside]
  rcases a.runFrom (inner b) with ⟨f | x, i⟩ <;> rfl

/-- What is done outside of the terminal in any case is done after a job; only its failure takes the
place of the end that the job came to. -/
theorem runFrom_tryFinally (job : Job ω α) (last : Action (Bench ω) Unit) (b : Session ω) :
    (tryFinally job (outside last)).run.runFrom b =
      match job.run.runFrom b with
      | (ending, b) =>
        match last.runFrom (inner b) with
        | (.ok _, i) => (ending, outer b i)
        | (.error f, i) => (.error f, outer b i) := by
  have hlast := runFrom_outside last
  simp only [Action.runFrom, tryFinally, tryFinally', Functor.map, ExceptT.map, bind, ExceptT.bind,
    ExceptT.bindCont, ExceptT.run, ExceptT.mk, StateT.run, StateT.bind, pure, ExceptT.pure]
    at hlast ⊢
  rcases job b with ⟨f | status | x, b'⟩
  all_goals
    dsimp only
    rw [hlast b']
    rcases last (inner b') with ⟨g | u, i⟩ <;> rfl

def told (change : Console → Console) (b : Session ω) : Session ω :=
  { b with world := { b.world with console := change b.world.console } }

def printed (out err : List String) (b : Session ω) : Session ω := told (Console.showing out err) b

theorem printed_nil (b : Session ω) : printed [] [] b = b := by
  unfold printed told
  rw [Console.showing_nil]

theorem printed_printed (out err out' err' : List String) (b : Session ω) :
    printed out' err' (printed out err b) = printed (out ++ out') (err ++ err') b := by
  unfold printed told
  dsimp only
  rw [Console.showing_showing]

theorem runFrom_say_bind (change : Console → Console) (next : Unit → Job ω β) (b : Session ω) :
    (say change >>= next).run.runFrom b = (next ()).run.runFrom (told change b) := rfl

end Job

open Commands

/-- What reading the test cases at a path comes to for a command. -/
def suite (settings : Settings) (base : Path) (b : Session ω) :
    Except Failure (List (TestCase Float)) :=
  ((TestSuite.read base.toText (limits settings)).runFrom (inner b)).1

/-- How looking for test cases ends, by what is at the path and how reading it ends. -/
theorem ending_found (settings : Settings) (base : Path) (b : Session ω) :
    (found settings base).ending b =
      match b.files.present base with
      | .error f => .error (.fault f)
      | .ok false => .ok (.error .fileNotFound)
      | .ok true =>
        match suite settings base b with
        | .ok cases => .ok (.ok cases)
        | .error (.configuration _) => .ok (.error .validationError)
        | .error f => .error f := by
  have hfiles : (inner b).files = b.files := rfl
  rw [found, Job.ending, Job.runFrom_outside_bind, Bench.runFrom_ask, hfiles]
  cases b.files.present base with
  | error f => rfl
  | ok present =>
    cases present with
    | false => rfl
    | true =>
      show ((outside (TestSuite.read base.toText (limits settings)).refusal >>= _ :
        Job ω (List (TestCase Float))).run.runFrom b).1 = _
      rw [Job.runFrom_outside_bind, Action.runFrom_refusal, suite]
      rcases (TestSuite.read base.toText (limits settings)).runFrom (inner b) with ⟨f | cases, i⟩
      · cases f <;> rfl
      · rfl

/-- What is not reported when the test cases at a path are read: that it is not known which files
to read, and whatever is not reported about one of them. -/
inductive SuiteEscape (files : Files) (base : Path) : Fault → Prop
  | unlocatable {f : Fault} : TestSuite.Unlocatable files base f → SuiteEscape files base f
  | file {root p : Path} {paths : List Path} {f : Fault} :
      TestSuite.Located files base root paths → p ∈ paths → DefinitionFile.Escape files p f →
        SuiteEscape files base f

theorem suite_cases (settings : Settings) (base : Path) (b : Session ω) :
    (∃ cases, suite settings base b = .ok cases) ∨
      (∃ m, suite settings base b = .error (.configuration m)) ∨
      ∃ f, suite settings base b = .error (.fault f) ∧
        SuiteEscape b.files (.ofText base.toText) f := by
  cases hread : suite settings base b with
  | ok cases => exact .inl ⟨cases, rfl⟩
  | error f =>
    rcases TestSuite.read_eq_error hread with
      ⟨m, rfl⟩ | ⟨g, rfl, hunlocatable⟩ | ⟨root, paths, p, hlocated, hp, hload⟩
    · exact .inr (.inl ⟨m, rfl⟩)
    · exact .inr (.inr ⟨g, rfl, .unlocatable hunlocatable⟩)
    · rcases DefinitionFile.load_error hload with ⟨m, rfl⟩ | ⟨g, rfl, hescape⟩
      · exact .inr (.inl ⟨m, rfl⟩)
      · exact .inr (.inr ⟨g, rfl, .file hlocated hp hescape⟩)

/-- Loading comes to a definition only where nothing on the way escapes the reports, and else to a
report or to a fault that is one of the escapes.  A command whose test cases cannot be read ends
with the status for that where there is a report, and with the fault where there is none. -/
theorem unloadable_reported_or_escapes (files : Files) (path : Path) (settings : Settings)
    (base : Path) (b : Session ω) :
    ((∃ d, DefinitionFile.load files path = .ok d ∧ ∀ f, ¬DefinitionFile.Escape files path f) ∨
        (∃ m, DefinitionFile.load files path = .error (.configuration m)) ∨
        ∃ f, DefinitionFile.load files path = .error (.fault f) ∧
          DefinitionFile.Escape files path f) ∧
      ((∃ cases, suite settings base b = .ok cases) ∨
        (∃ m, suite settings base b = .error (.configuration m)) ∨
        ∃ f, suite settings base b = .error (.fault f) ∧
          SuiteEscape b.files (.ofText base.toText) f) ∧
      (found settings base).ending b =
        match b.files.present base with
        | .error f => .error (.fault f)
        | .ok false => .ok (.error .fileNotFound)
        | .ok true =>
          match suite settings base b with
          | .ok cases => .ok (.ok cases)
          | .error (.configuration _) => .ok (.error .validationError)
          | .error f => .error f := by
  refine ⟨?_, suite_cases settings base b, ending_found settings base b⟩
  cases hload : DefinitionFile.load files path with
  | ok d => exact .inl ⟨d, rfl, fun f => DefinitionFile.not_escape_of_load hload⟩
  | error f =>
    rcases DefinitionFile.load_error hload with ⟨m, rfl⟩ | ⟨g, rfl, hescape⟩
    · exact .inr (.inl ⟨m, rfl⟩)
    · exact .inr (.inr ⟨g, rfl, hescape⟩)

def undecodable : Files :=
  { tree := .directory [("oats.yaml", .file (.bytes ⟨#[0xFF]⟩))] }

theorem not_reported_of_fault {x : Except Failure α} (h : endsWithFault x = true) :
    ¬((∃ a, x = .ok a) ∨ ∃ m, x = .error (.configuration m)) := by
  intro hreported
  obtain ⟨a, rfl⟩ | ⟨m, rfl⟩ := hreported
  · cases h
  · cases h

/-- Loading does not always come to a definition or to a report. -/
theorem undecodable_not_reported :
    ¬((∃ d, DefinitionFile.load undecodable ⟨"", ["oats.yaml"]⟩ = .ok d) ∨
      ∃ m, DefinitionFile.load undecodable ⟨"", ["oats.yaml"]⟩ = .error (.configuration m)) :=
  not_reported_of_fault (by decide +kernel)

/-! ## Letting test cases in -/

section Admission

variable {τ : Type} (files : Files) (c : TestCase τ)

/-- The question about a test case that has no answer, if there is one. -/
def unanswered? : Option Fault := c.definition.fault? files.isFile c.dir

def refused? : Option Misconfiguration :=
  match validateDefinition files.isFile c.dir c.definition with
  | .ok (finding :: more) =>
    some
      { summary := "invalid test case '" ++ c.name ++ "'"
        errors := finding :: more
        source := some c.path.toText }
  | _ => none

def letIn : TestCase τ := if (refused? files c).isNone then c.withPorts else c

end Admission

variable {τ : Type}

/-- Letting a test case in leaves all but the journal alone, and it comes to a fault only where a
question about it has no answer. -/
theorem runFrom_accept_refusal (c : TestCase τ) (b : Bench ω) :
    ∃ b', b'.world = b.world ∧ b'.files = b.files ∧ c.accept.refusal.runFrom b =
      (match unanswered? b.files c, refused? b.files c with
        | some f, _ => .error (.fault f)
        | none, some m => .ok (.error m)
        | none, none => .ok (.ok (letIn b.files c)), b') := by
  have hfault := failure?_validateDefinition b.files.isFile c.dir c.definition
  rw [Action.runFrom_refusal, TestCase.accept, Action.runFrom_bind, Bench.runFrom_ask]
  unfold letIn refused? unanswered?
  rw [← hfault]
  cases validateDefinition b.files.isFile c.dir c.definition with
  | error f => exact ⟨b, rfl, rfl, rfl⟩
  | ok findings =>
    cases findings with
    | nil => exact ⟨{ b with journal := b.journal.log _ }, rfl, rfl, rfl⟩
    | cons finding more => exact ⟨{ b with journal := b.journal.log _ }, rfl, rfl, rfl⟩

def putFirst (c : TestCase τ) (accepted : Except Misconfiguration (TestCase τ)) :
    List (TestCase τ) × List Misconfiguration → List (TestCase τ) × List Misconfiguration
  | (cases, invalid) =>
    match accepted with
    | .ok c => (c :: cases, invalid)
    | .error m => (c :: cases, m :: invalid)

theorem acceptAll_cons (c : TestCase τ) (rest : List (TestCase τ)) :
    (acceptAll (c :: rest) : Action (Bench ω) _) =
      c.accept.refusal >>= fun accepted => putFirst c accepted <$> acceptAll rest := by
  rw [acceptAll]
  simp only [← bind_pure_comp]
  rfl

/-- Letting test cases in one after the other ends with the first one about which a question has no
answer.  Where there is none, all are looked at, and the invalid ones are reported in order. -/
theorem runFrom_acceptAll (cases : List (TestCase τ)) (b : Bench ω) :
    ∃ b', b'.world = b.world ∧ b'.files = b.files ∧ (acceptAll cases).runFrom b =
      (match cases.findSome? (unanswered? b.files) with
        | some f => .error (.fault f)
        | none => .ok (cases.map (letIn b.files), cases.filterMap (refused? b.files)), b') := by
  induction cases generalizing b with
  | nil => exact ⟨b, rfl, rfl, rfl⟩
  | cons c rest ih =>
    obtain ⟨b₁, hworld, hfiles, hfirst⟩ := runFrom_accept_refusal c b
    -- the files are as before, so the same is asked about the others as without the first
    obtain ⟨b₂, hworld', hfiles', hrest⟩ := ih b₁
    rw [hfiles] at hrest
    rw [acceptAll_cons, Action.runFrom_bind, hfirst, List.findSome?_cons]
    cases unanswered? b.files c with
    | some f => exact ⟨b₁, hworld, hfiles, rfl⟩
    | none =>
      refine ⟨b₂, hworld'.trans hworld, hfiles'.trans hfiles, ?_⟩
      cases hrefused : refused? b.files c with
      | none =>
        rw [List.filterMap_cons_none hrefused]
        dsimp only
        rw [Action.runFrom_map, hrest]
        cases rest.findSome? (unanswered? b.files) <;> rfl
      | some m =>
        have hout : letIn b.files c = c := by simp [letIn, hrefused]
        rw [List.filterMap_cons_some hrefused, List.map_cons, hout]
        dsimp only
        rw [Action.runFrom_map, hrest]
        cases rest.findSome? (unanswered? b.files) <;> rfl

theorem told_error (message : String) (context : Context) (b : Session ω) :
    told (Console.error message context) b =
      printed [] ["Error: " ++ message ++ contextText context] b := by
  unfold printed told
  rw [Console.error_eq]

theorem told_misconfiguration (m : Misconfiguration) (b : Session ω) :
    told (Console.misconfiguration m) b = printed [] (refusalLines m) b := by
  unfold printed told
  rw [misconfiguration_eq]

theorem runFrom_forM_say_bind (lines : List Misconfiguration) (next : Job ω α) (b : Session ω) :
    ((do lines.forM fun m => say (Console.misconfiguration m); next) : Job ω α).run.runFrom b =
      next.run.runFrom (printed [] (lines.flatMap refusalLines) b) := by
  induction lines generalizing b with
  | nil =>
    rw [List.flatMap_nil, printed_nil]
    rfl
  | cons m rest ih =>
    refine (ih (told (Console.misconfiguration m) b)).trans ?_
    rw [told_misconfiguration, printed_printed]
    rfl

/-- A command goes on only with test cases that are all valid, and until then nothing but the
journal and the console is touched. -/
theorem runFrom_requireValid (cases : List (TestCase τ)) (b : Session ω) :
    ∃ i, Untouched b i ∧
      (requireValid cases).run.runFrom b =
        match cases.findSome? (unanswered? b.files), cases.filterMap (refused? b.files) with
        | some f, _ => (.error (.fault f), outer b i)
        | none, [] => (.ok (.ok (cases.map (letIn b.files))), outer b i)
        | none, m :: more =>
          (.ok (.error .validationError),
            printed [] (invalidLines (m :: more) cases.length) (outer b i)) := by
  obtain ⟨i, hworld, hfiles, hrun⟩ := runFrom_acceptAll cases (inner b)
  refine ⟨i, ⟨hworld, hfiles⟩, ?_⟩
  rw [show (inner b).files = b.files from rfl] at hrun
  rw [requireValid, Job.runFrom_outside_bind, hrun]
  cases cases.findSome? (unanswered? b.files) with
  | some f => rfl
  | none =>
    -- the reports are said first, whatever comes after them
    refine (runFrom_forM_say_bind (cases.filterMap (refused? b.files)) _ (outer b i)).trans ?_
    cases cases.filterMap (refused? b.files) with
    | nil =>
      rw [List.flatMap_nil, printed_nil]
      rfl
    | cons m more =>
      refine congrArg (Prod.mk _) ((told_error _ _ _).trans ?_)
      rw [printed_printed, invalidLines, countText, contextText_nil, String.append_empty]
      rfl

end CommandLine
end TelemetryCheck
