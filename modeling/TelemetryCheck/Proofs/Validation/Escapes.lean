import TelemetryCheck.Admission
import TelemetryCheck.Conversion.Definition
import TelemetryCheck.Proofs.Files.Questions
import TelemetryCheck.Proofs.Text.Digits

/-!
# What validation does not report

Validation collects what is wrong with a definition.  Three questions that it asks have no answer
for some definitions: whether there is a file at a path, what number a status is, and what a pattern
says.  The first question without an answer ends the collection, and what was found before is lost.
Where every question has an answer, every part is looked at and everything found is reported.
-/

namespace TelemetryCheck

/-! ## Statuses -/

namespace Decimal

/-- A sign and digits are read as an integer unless there are too many digits. -/
theorem failure?_readInteger {cs : List Char} (h : isIntegerText cs = true) :
    failure? (readInteger cs) =
      if maxIntegerDigits < (takeSign cs).2.length then some (.tooLong (takeSign cs).2.length)
      else none := by
  obtain ⟨hsome, hdigits⟩ : (takeSign cs).2 ≠ [] ∧
      ∀ c ∈ (takeSign cs).2, Text.isDigit c = true := by
    simpa [isIntegerText] using h
  rw [readInteger_of_digits hsome hdigits]
  split <;> rfl

end Decimal

def statusDigits (status : String) : Nat := (Decimal.takeSign status.toList).2.length

def statusFault? (status : String) : Option Fault :=
  if isIntegerText status.toList ∧ Decimal.maxIntegerDigits < statusDigits status then
    some (.integerTooLong (statusDigits status))
  else none

theorem failure?_statusFailures (status context : String) :
    failure? (statusFailures status context) = statusFault? status := by
  have hempty : status.isEmpty = true → isIntegerText status.toList = false := by
    intro h
    rw [String.isEmpty_iff.mp h]
    decide
  unfold statusFailures statusFault? statusDigits
  cases hinteger : isIntegerText status.toList with
  | false => grind [failure?]
  | true =>
    have hread := Decimal.failure?_readInteger hinteger
    grind [failure?, Fault.ofIntegerError]

/-! ## Patterns -/

def patternFault? (pattern : String) : Option Fault :=
  match Pattern.compile pattern with
  | .ok _ | .error (.invalid ..) => none
  | .error e => some (.pattern pattern e)

theorem failure?_validatePattern (pattern context what : String) :
    failure? (validatePattern pattern context what) = patternFault? pattern := by
  unfold validatePattern patternFault?
  cases Pattern.compile pattern with
  | ok p => rfl
  | error e => cases e <;> rfl

def Signal.patterns (s : Signal) : List String :=
  (given? s.regexp).toList ++ (s.attributeRegexp.map Prod.snd).filter fun p => !p.isEmpty

def Expected.patterns (e : Expected) : List String :=
  (e.logs.flatMap fun logs => logs.signal.patterns) ++
    (e.traces.flatMap fun traces => traces.signal.patterns) ++
    e.profiles.flatMap fun profiles => (given? profiles.flamebearers.regexp).toList

/-! ## Parts -/

theorem failure?_collect (parts : List Findings) :
    failure? (collect parts) = parts.findSome? failure? := by
  induction parts with
  | nil => rfl
  | cons part rest ih =>
    have hrest : ∀ found, failure? (do return found ++ (← collect rest) : Findings) =
        rest.findSome? failure? := by
      intro found
      rw [failure?_bind_pure, ih]
    rw [collect, failure?_bind hrest, List.findSome?_cons]
    cases failure? part <;> rfl

/-- A collection that comes to an end has the findings of every part. -/
theorem collect_eq_ok {parts : List Findings} {findings : List String} :
    collect parts = .ok findings ↔
      ∃ found : List (List String), parts = found.map .ok ∧ findings = found.flatten := by
  induction parts generalizing findings with
  | nil =>
    constructor
    · intro h
      cases h
      exact ⟨[], rfl, rfl⟩
    · rintro ⟨found, hparts, rfl⟩
      rw [List.map_eq_nil_iff.mp hparts.symm]
      rfl
  | cons part rest ih =>
    constructor
    · intro h
      cases part with
      | error f => cases h
      | ok first =>
        cases hrest : collect rest with
        | error f =>
          rw [collect, hrest] at h
          cases h
        | ok more =>
          rw [collect, hrest] at h
          cases h
          obtain ⟨found, rfl, rfl⟩ := ih.mp hrest
          exact ⟨first :: found, rfl, rfl⟩
    · rintro ⟨found, hparts, rfl⟩
      cases found with
      | nil => cases hparts
      | cons first found =>
        obtain ⟨rfl, hrest⟩ := List.cons.inj hparts
        rw [collect, ih.mpr ⟨found, hrest, rfl⟩]
        rfl

/-- The index of an item does not matter for a search in which it is not asked for. -/
theorem findSome?_mapIdx {α β γ : Type} {look : Nat → α → β} {p : β → Option γ} {q : α → Option γ}
    (h : ∀ index x, p (look index x) = q x) (xs : List α) :
    (xs.mapIdx look).findSome? p = xs.findSome? q := by
  induction xs generalizing look with
  | nil => rfl
  | cons x rest ih =>
    rw [List.mapIdx_cons, List.findSome?_cons, List.findSome?_cons, h,
      ih fun index => h (index + 1)]

theorem failure?_optional {look : String → Findings} {p : String → Option Fault}
    (h : ∀ s, failure? (look s) = p s) (text : Option String) :
    failure? (text.elim (.ok []) look) = text.toList.findSome? p := by
  cases text with
  | none => rfl
  | some s =>
    show failure? (look s) = _
    rw [h]
    simp

theorem findSome?_cons_eq_or {α β : Type} (p : α → Option β) (x : α) (xs : List α) :
    (x :: xs).findSome? p = (p x).or (xs.findSome? p) := by
  rw [List.findSome?_cons]
  cases p x <;> rfl

theorem findSome?_attributePatterns (context : String) (entries : List (String × String)) :
    (entries.map fun (key, pattern) =>
        if pattern.isEmpty then .ok []
        else validatePattern pattern context ("attribute-regexp " ++ Text.quoted key)).findSome?
      failure? =
      ((entries.map Prod.snd).filter fun p => !p.isEmpty).findSome? patternFault? := by
  induction entries with
  | nil => rfl
  | cons entry rest ih =>
    obtain ⟨key, pattern⟩ := entry
    rw [List.map_cons, findSome?_cons_eq_or, ih, List.map_cons, List.filter_cons]
    dsimp only
    -- a pattern that is not given is not compiled, and it is not among the patterns either
    cases pattern.isEmpty with
    | true => rfl
    | false =>
      show (failure? (validatePattern pattern context _)).or _ =
        List.findSome? patternFault? (pattern :: _)
      rw [failure?_validatePattern, findSome?_cons_eq_or]

theorem failure?_validateSignal (s : Signal) (context : String) :
    failure? (validateSignal s context) = s.patterns.findSome? patternFault? := by
  rw [validateSignal, failure?_collect, List.findSome?_append, List.findSome?_append,
    findSome?_attributePatterns, Signal.patterns, List.findSome?_append]
  simp [findSome?_cons_eq_or, failure?_optional (failure?_validatePattern · context "regexp")]

theorem failure?_validateInput (index : Nat) (i : Input) :
    failure? (validateInput index i) = statusFault? i.status := by
  rw [validateInput, failure?_collect]
  simp [findSome?_cons_eq_or, failure?_statusFailures]

theorem failure?_validateLogs (index : Nat) (e : ExpectedLogs) :
    failure? (validateLogs index e) = e.signal.patterns.findSome? patternFault? := by
  rw [validateLogs, failure?_collect]
  simp [findSome?_cons_eq_or, failure?_validateSignal]

theorem failure?_validateTraces (index : Nat) (e : ExpectedTraces) :
    failure? (validateTraces index e) = e.signal.patterns.findSome? patternFault? := by
  rw [validateTraces, failure?_collect]
  simp [findSome?_cons_eq_or, failure?_validateSignal]

theorem failure?_validateProfiles (index : Nat) (e : ExpectedProfiles) :
    failure? (validateProfiles index e) =
      (given? e.flamebearers.regexp).toList.findSome? patternFault? := by
  rw [validateProfiles, failure?_collect]
  simp [findSome?_cons_eq_or,
    failure?_optional (failure?_validatePattern · (indexed "profiles" index) "regexp")]

def Definition.composeFiles (d : Definition) : List String :=
  match d.kubernetes, d.dockerCompose with
  | none, some compose => compose.files
  | _, _ => []

/-- The first question that validation asks of a definition and that has no answer. -/
def Definition.fault? (isFile : FileTest) (directory : Path) (d : Definition) : Option Fault :=
  (d.composeFiles.findSome? fun name => failure? (isFile (directory.child name))).or
    ((d.input.findSome? fun i => statusFault? i.status).or
      (d.expected.patterns.findSome? patternFault?))

theorem failure?_validateDeployment (isFile : FileTest) (directory : Path) (d : Definition) :
    failure? (validateDeployment isFile directory d) =
      d.composeFiles.findSome? fun name => failure? (isFile (directory.child name)) := by
  unfold validateDeployment Definition.composeFiles
  cases d.kubernetes with
  | some k => rfl
  | none =>
    cases d.dockerCompose with
    | none => rfl
    | some compose =>
      have hfile : ∀ name, failure? (validateComposeFile isFile directory name) =
          failure? (isFile (directory.child name)) := fun name => failure?_bind_pure _ _
      show failure? (collect (compose.files.map _)) = _
      rw [failure?_collect, List.findSome?_map]
      simp only [Function.comp_def, hfile]

theorem failure?_validateInputs (inputs : List Input) :
    failure? (validateInputs inputs) = inputs.findSome? fun i => statusFault? i.status := by
  rw [validateInputs, failure?_collect, findSome?_mapIdx failure?_validateInput]

theorem failure?_validateDefinition (isFile : FileTest) (directory : Path) (d : Definition) :
    failure? (validateDefinition isFile directory d) = d.fault? isFile directory := by
  -- checks by script and expectations of metrics ask nothing that may have no answer
  have hchecks : ∀ (index : Nat) (check : CustomCheck),
      failure? (validateCustomCheck index check) = none := fun _ _ => rfl
  have hmetrics : ∀ (index : Nat) (metrics : ExpectedMetrics),
      failure? (validateMetrics index metrics) = none := fun _ _ => rfl
  rw [validateDefinition, failure?_collect, validationParts]
  simp only [List.findSome?_append, findSome?_cons_eq_or, findSome?_mapIdx hchecks,
    findSome?_mapIdx hmetrics, findSome?_mapIdx failure?_validateLogs,
    findSome?_mapIdx failure?_validateTraces, findSome?_mapIdx failure?_validateProfiles,
    failure?_validateDeployment, failure?_validateInputs]
  have hnone : ∀ {α : Type} (xs : List α), xs.findSome? (fun _ => (none : Option Fault)) = none :=
    fun xs => List.findSome?_eq_none_iff.mpr fun _ _ => rfl
  simp only [Definition.fault?, Expected.patterns, List.findSome?_append, findSome?_flatMap]
  simp [hnone, Option.or_assoc]

/-! ## Definitions -/

/-- The questions that have no answer, with the faults that they lead to: whether a file is there
whose path is too long, the number in a status with too many digits, and a pattern that is refused
without a reason to report. -/
inductive Definition.Unanswered (directory : Path) (d : Definition) : Fault → Prop
  | file {name : String} : name ∈ d.composeFiles →
      Unanswered directory d (FileError.nameTooLong.fault (directory.child name))
  | status {i : Input} : i ∈ d.input → isIntegerText i.status.toList = true →
      Decimal.maxIntegerDigits < statusDigits i.status →
        Unanswered directory d (.integerTooLong (statusDigits i.status))
  | pattern {pattern : String} {e : Pattern.CompileError} : pattern ∈ d.expected.patterns →
      Pattern.compile pattern = .error e → (∀ reason position, e ≠ .invalid reason position) →
        Unanswered directory d (.pattern pattern e)

theorem unanswered_of_fault? {files : Files} {directory : Path} {d : Definition} {f : Fault}
    (h : d.fault? files.isFile directory = some f) : d.Unanswered directory f := by
  rcases Option.or_eq_some_iff.mp h with hfiles | ⟨-, h⟩
  · obtain ⟨name, hname, hfault⟩ := List.exists_of_findSome?_eq_some hfiles
    rw [Files.isFile_error (failure?_eq_some.mp hfault)]
    exact .file hname
  rcases Option.or_eq_some_iff.mp h with hinput | ⟨-, hpatterns⟩
  · obtain ⟨i, hi, hfault⟩ := List.exists_of_findSome?_eq_some hinput
    unfold statusFault? at hfault
    split at hfault
    · rename_i hlong
      cases hfault
      exact .status hi hlong.1 hlong.2
    · cases hfault
  · obtain ⟨pattern, hpattern, hfault⟩ := List.exists_of_findSome?_eq_some hpatterns
    unfold patternFault? at hfault
    split at hfault
    · cases hfault
    · cases hfault
    · rename_i e hinvalid hcompile
      cases hfault
      exact .pattern hpattern hcompile hinvalid

theorem runFrom_accept {ω τ : Type} (c : TestCase τ) (b : Bench ω) :
    (c.accept.runFrom b).1 =
      match validateDefinition b.files.isFile c.dir c.definition with
      | .ok findings =>
        if findings = [] then .ok c.withPorts
        else .error (.configuration
          { summary := "invalid test case '" ++ c.name ++ "'"
            errors := findings
            source := some c.path.toText })
      | .error f => .error (.fault f) := by
  rw [TestCase.accept, Action.runFrom_bind, Bench.runFrom_ask]
  cases validateDefinition b.files.isFile c.dir c.definition with
  | error f => rfl
  | ok findings =>
    cases findings with
    | nil => rfl
    | cons finding more => rfl

/-- Validation looks at every part of a definition and reports everything that it finds, in one list
and in one refusal that holds this list, unless a question that it asks has no answer.  Then the
first such question ends it with a fault. -/
theorem reported_unless_unanswered {ω τ : Type} (c : TestCase τ) (b : Bench ω) :
    (c.definition.fault? b.files.isFile c.dir = none ∧ ∃ found : List (List String),
        validationParts b.files.isFile c.dir c.definition = found.map .ok ∧
          validateDefinition b.files.isFile c.dir c.definition = .ok found.flatten ∧
          (c.accept.runFrom b).1 =
            if found.flatten = [] then .ok c.withPorts
            else .error (.configuration
              { summary := "invalid test case '" ++ c.name ++ "'"
                errors := found.flatten
                source := some c.path.toText })) ∨
      ∃ f, c.definition.fault? b.files.isFile c.dir = some f ∧
        c.definition.Unanswered c.dir f ∧
        validateDefinition b.files.isFile c.dir c.definition = .error f ∧
        (c.accept.runFrom b).1 = .error (.fault f) := by
  have hfault := failure?_validateDefinition b.files.isFile c.dir c.definition
  rw [runFrom_accept]
  cases hvalidate : validateDefinition b.files.isFile c.dir c.definition with
  | ok findings =>
    rw [hvalidate] at hfault
    obtain ⟨found, hparts, rfl⟩ := collect_eq_ok.mp hvalidate
    exact .inl ⟨hfault.symm, found, hparts, rfl, rfl⟩
  | error f =>
    rw [hvalidate] at hfault
    exact .inr ⟨f, hfault.symm, unanswered_of_fault? hfault.symm, rfl, rfl⟩

def countlessRepeats : Data :=
  .record
    [(.text "docker-compose", .record [(.text "files", .list [])]),
      (.text "expected", .record [(.text "logs", .list [.record
        [(.text "logql", .text "x"), (.text "regexp", .text "a\x7b4294967295\x7d")]])])]

/-- A definition whose conversion went well is not always reported on. -/
theorem countless_repeats_not_reported :
    ∃ d, Conversion.definition countlessRepeats = .ok d ∧
      ¬∃ findings, validateDefinition (fun _ => .ok true) ⟨"/", []⟩ d = .ok findings := by
  have hfault : (match Conversion.definition countlessRepeats with
      | .ok d => (validateDefinition (fun _ => .ok true) ⟨"/", []⟩ d).isOk
      | .failed _ => true) = false := by
    decide +kernel
  cases hconverted : Conversion.definition countlessRepeats with
  | failed complaints =>
    rw [hconverted] at hfault
    cases hfault
  | ok d =>
    rw [hconverted] at hfault
    refine ⟨d, rfl, ?_⟩
    rintro ⟨findings, hok⟩
    simp only [hok] at hfault
    cases hfault

end TelemetryCheck
