import TelemetryCheck.Proofs.Findings
import TelemetryCheck.Proofs.Validation.Escapes

/-!
# The parts of a validation

Validation looks at the deployment of a definition, at each input, at whether anything is expected
at all, and at each check and expectation.  What it finds in one of these parts depends on that part
and on its index alone, and its report joins what it finds in all of them.  So no part hides what is
wrong with another one, and what is put in the place of one part changes the messages about that
place only.
-/

namespace TelemetryCheck

/-! ## Collections -/

/-- A collection inside another one may be opened up. -/
theorem collect_cons_collect (parts rest : List Findings) :
    collect (collect parts :: rest) = collect (parts ++ rest) :=
  (collect_append parts rest).symm

theorem collect_append_congr {a a' b b' : List Findings} (ha : collect a = collect a')
    (hb : collect b = collect b') : collect (a ++ b) = collect (a' ++ b') := by
  rw [collect_append, collect_append, ha, hb]

def reported (f : Findings) : List String := f.toOption.getD []

theorem collect_map_eq_ok {α : Type} {items : List α} {look : α → Findings} {say : α → List String}
    (h : ∀ x ∈ items, look x = .ok (say x)) :
    collect (items.map look) = .ok (items.flatMap say) := by
  induction items with
  | nil => rfl
  | cons x rest ih =>
    rw [List.map_cons, collect, h x List.mem_cons_self,
      ih fun y hy => h y (List.mem_cons_of_mem x hy)]
    rfl

theorem exists_ok_of_collect {parts : List Findings} {findings : List String}
    (h : collect parts = .ok findings) {part : Findings} (hpart : part ∈ parts) :
    ∃ found, part = .ok found := by
  obtain ⟨found, rfl, -⟩ := collect_eq_ok.mp h
  obtain ⟨messages, -, rfl⟩ := List.mem_map.mp hpart
  exact ⟨messages, rfl⟩

/-! ## Inputs -/

def Input.complaints (i : Input) : Findings :=
  collect
    [.ok (note i.path.isEmpty "input path is empty in "),
      statusFailures i.status "",
      .ok (note (!i.method.isEmpty && !httpMethods.contains (upperText i.method))
          "method must be a supported HTTP method or be empty in " ++
        note (i.effectiveMethod == "GET" && !i.body.isEmpty)
          "body must be empty for GET requests in " ++
        note (!i.scheme.isEmpty && !httpSchemes.contains (lowerText i.scheme))
          "scheme must be http, https or be empty in ")]

/-- The same messages with a place at their ends. -/
def Findings.placedIn (place : String) (f : Findings) : Findings := f.map (List.map (· ++ place))

def inputsFrom (start : Nat) (inputs : List Input) : Findings :=
  collect (inputs.mapIdx fun index i => i.complaints.placedIn (indexed "input" (start + index)))

theorem collect_placedIn (place : String) (parts : List Findings) :
    (collect parts).placedIn place = collect (parts.map (Findings.placedIn place)) := by
  induction parts with
  | nil => rfl
  | cons part rest ih =>
    rw [List.map_cons, collect, collect, ← ih]
    cases part with
    | error fault => rfl
    | ok found =>
      cases collect rest with
      | error fault => rfl
      | ok more => exact congrArg Except.ok List.map_append

theorem map_note (f : String → String) (condition : Bool) (message : String) :
    (note condition message).map f = note condition (f message) := by
  cases condition <;> rfl

theorem statusFailures_eq (status place : String) :
    statusFailures status place = (statusFailures status "").placedIn place := by
  have hmessage : "status must parse as integer or be empty in " ++ place =
      ("status must parse as integer or be empty in " ++ "") ++ place := by
    rw [String.append_empty]
  unfold statusFailures Findings.placedIn
  dsimp only
  rw [hmessage]
  split
  · rfl
  · split
    · rfl
    · split
      · exact congrArg Except.ok (map_note (· ++ place) _ _).symm
      · rfl

theorem validateInput_eq (index : Nat) (i : Input) :
    validateInput index i = i.complaints.placedIn (indexed "input" index) := by
  rw [Input.complaints, collect_placedIn, validateInput, statusFailures_eq]
  simp only [List.map_cons, List.map_nil, Findings.placedIn, Except.map, List.map_append, map_note]

/-- Inputs that come after others are looked at as if they stood alone, but counted on. -/
theorem validateInputs_append (xs ys : List Input) :
    validateInputs (xs ++ ys) =
      (do return (← validateInputs xs) ++ (← inputsFrom xs.length ys)) := by
  have hlater : (ys.mapIdx fun index i => validateInput (index + xs.length) i) =
      ys.mapIdx fun index i => i.complaints.placedIn (indexed "input" (xs.length + index)) := by
    simp only [validateInput_eq, Nat.add_comm]
  rw [validateInputs, List.mapIdx_append, collect_append, hlater]
  rfl

theorem validateInputs_eq (inputs : List Input) : validateInputs inputs = inputsFrom 0 inputs := by
  have hinput : validateInput = fun index i => i.complaints.placedIn (indexed "input" index) :=
    funext fun index => funext (validateInput_eq index)
  simp only [validateInputs, inputsFrom, hinput, Nat.zero_add]

/-! ## Definitions -/

namespace Definition

/-- A part that validation looks at, with its index among the parts of its kind. -/
inductive Part
  | deployment (kubernetes : Option Kubernetes) (compose : Option DockerCompose)
  | input (index : Nat) (i : Input)
  | signals (count : Nat)
  | customCheck (index : Nat) (check : CustomCheck)
  | logs (index : Nat) (e : ExpectedLogs)
  | metrics (index : Nat) (e : ExpectedMetrics)
  | traces (index : Nat) (e : ExpectedTraces)
  | profiles (index : Nat) (e : ExpectedProfiles)

inductive Place
  | deployment
  | input (index : Nat)
  | signals
  | customCheck (index : Nat)
  | logs (index : Nat)
  | metrics (index : Nat)
  | traces (index : Nat)
  | profiles (index : Nat)
  deriving DecidableEq

def Part.place : Part → Place
  | .deployment _ _ => .deployment
  | .input index _ => .input index
  | .signals _ => .signals
  | .customCheck index _ => .customCheck index
  | .logs index _ => .logs index
  | .metrics index _ => .metrics index
  | .traces index _ => .traces index
  | .profiles index _ => .profiles index

/-- What validation finds in a part.  Only a deployment is looked at in a directory. -/
def Part.findings (isFile : FileTest) (directory : Path) : Part → Findings
  | .deployment kubernetes compose =>
    validateDeployment isFile directory { kubernetes := kubernetes, dockerCompose := compose }
  | .input index i => validateInput index i
  | .signals count => .ok (note (count == 0) "no expected metrics, traces, logs or profiles")
  | .customCheck index check => validateCustomCheck index check
  | .logs index e => validateLogs index e
  | .metrics index e => validateMetrics index e
  | .traces index e => validateTraces index e
  | .profiles index e => validateProfiles index e

/-- All parts, in the order in which they are looked at. -/
def parts (d : Definition) : List Part :=
  [.deployment d.kubernetes d.dockerCompose] ++ d.input.mapIdx .input ++
    [.signals d.expected.signalCount] ++ d.expected.customChecks.mapIdx .customCheck ++
    d.expected.logs.mapIdx .logs ++ d.expected.metrics.mapIdx .metrics ++
    d.expected.traces.mapIdx .traces ++ d.expected.profiles.mapIdx .profiles

/-- Puts a part in place of the one that stands where it belongs.  How many signals are expected
follows from the others. -/
def put (d : Definition) : Part → Definition
  | .deployment kubernetes compose => { d with kubernetes := kubernetes, dockerCompose := compose }
  | .input index i => { d with input := d.input.set index i }
  | .signals _ => d
  | .customCheck index check =>
    { d with expected.customChecks := d.expected.customChecks.set index check }
  | .logs index e => { d with expected.logs := d.expected.logs.set index e }
  | .metrics index e => { d with expected.metrics := d.expected.metrics.set index e }
  | .traces index e => { d with expected.traces := d.expected.traces.set index e }
  | .profiles index e => { d with expected.profiles := d.expected.profiles.set index e }

theorem map_mapIdx {α β γ : Type} (f : β → γ) (kind : Nat → α → β) (xs : List α) :
    (xs.mapIdx kind).map f = xs.mapIdx fun index x => f (kind index x) := by
  refine (List.mapIdx_eq_iff.mpr fun i => ?_).symm
  rw [List.getElem?_map, List.getElem?_mapIdx, Option.map_map]
  rfl

theorem validateDefinition_eq (isFile : FileTest) (directory : Path) (d : Definition) :
    validateDefinition isFile directory d =
      collect (d.parts.map (Part.findings isFile directory)) := by
  -- the inputs have a collection of their own, which is opened up
  have hstart : collect [validateDeployment isFile directory d, validateInputs d.input,
        .ok (note (d.expected.signalCount == 0) "no expected metrics, traces, logs or profiles")] =
      collect ([validateDeployment isFile directory d] ++ d.input.mapIdx validateInput ++
        [.ok (note (d.expected.signalCount == 0)
          "no expected metrics, traces, logs or profiles")]) := by
    rw [List.append_assoc, List.singleton_append, collect, validateInputs, collect_cons_collect]
    rfl
  rw [validateDefinition, validationParts]
  simp only [parts, List.map_append, map_mapIdx, List.map_cons, List.map_nil, Part.findings]
  exact collect_append_congr (collect_append_congr (collect_append_congr (collect_append_congr
    (collect_append_congr hstart rfl) rfl) rfl) rfl) rfl

/-! ### Replacing a part -/

/-- `p` where its place is, and every other part as it is. -/
def Part.instead (p q : Part) : Part := if q.place = p.place then p else q

theorem mapIdx_set_eq {α β : Type} (kind : Nat → α → β) (xs : List α) (index : Nat) (x : α) :
    (xs.set index x).mapIdx kind =
      xs.mapIdx fun i y => if i = index then kind index x else kind i y := by
  refine List.mapIdx_eq_iff.mpr fun i => ?_
  rw [List.getElem?_mapIdx, List.getElem?_set]
  by_cases hi : index = i
  · subst hi
    simp only [if_true]
    split
    · rename_i hlt
      rw [List.getElem?_eq_getElem hlt]
      rfl
    · rename_i hlt
      rw [List.getElem?_eq_none (Nat.le_of_not_lt hlt)]
      rfl
  · simp only [if_neg hi, if_neg fun h => hi (Eq.symm h)]

theorem parts_put {p : Part} (hp : p.place ≠ .signals) (d : Definition) :
    (d.put p).parts = d.parts.map p.instead := by
  cases p with
  | signals count => exact absurd rfl hp
  | _ =>
    simp only [parts, put, List.map_append, List.map_cons, List.map_nil, map_mapIdx, mapIdx_set_eq,
      Part.instead, Part.place, Place.input.injEq, Place.customCheck.injEq, Place.logs.injEq,
      Place.metrics.injEq, Place.traces.injEq, Place.profiles.injEq, reduceCtorEq, if_true,
      if_false, Expected.signalCount, List.length_set]

theorem nodup_mapIdx_place {α : Type} {place : Nat → Place}
    (h : ∀ i j, place i = place j → i = j) (xs : List α) :
    (xs.mapIdx fun index _ => place index).Nodup := by
  have hrange : (xs.mapIdx fun index _ => place index) = (List.range xs.length).map place := by
    refine List.mapIdx_eq_iff.mpr fun i => ?_
    rw [List.getElem?_map]
    by_cases hi : i < xs.length
    · rw [List.getElem?_range hi, List.getElem?_eq_getElem hi]
      rfl
    · rw [List.getElem?_eq_none (by simpa using hi), List.getElem?_eq_none (by simpa using hi)]
      rfl
  rw [hrange]
  exact List.pairwise_map.mpr (List.nodup_range.imp fun hne heq => hne (h _ _ heq))

/-- No two parts stand in one place. -/
theorem nodup_places (d : Definition) : (d.parts.map Part.place).Nodup := by
  have hinput := nodup_mapIdx_place (fun _ _ => Place.input.inj) d.input
  have hchecks := nodup_mapIdx_place (fun _ _ => Place.customCheck.inj) d.expected.customChecks
  have hlogs := nodup_mapIdx_place (fun _ _ => Place.logs.inj) d.expected.logs
  have hmetrics := nodup_mapIdx_place (fun _ _ => Place.metrics.inj) d.expected.metrics
  have htraces := nodup_mapIdx_place (fun _ _ => Place.traces.inj) d.expected.traces
  have hprofiles := nodup_mapIdx_place (fun _ _ => Place.profiles.inj) d.expected.profiles
  simp only [parts, List.map_append, map_mapIdx, Part.place, List.map_cons, List.map_nil]
  simp [List.nodup_append, or_imp, forall_and, hinput, hchecks, hlogs, hmetrics, htraces, hprofiles]

def Part.messages (isFile : FileTest) (directory : Path) (p : Part) : List String :=
  reported (p.findings isFile directory)

/-- The report on a definition joins the messages about its parts, in order, and a report without
messages means that no part has any.  A part that is put in the place of another one changes the
messages about that place, and no others.  Inputs that come after others are looked at as if they
stood alone, except that they are counted on. -/
theorem validateDefinition_by_parts {isFile : FileTest} {directory : Path} {d : Definition}
    {findings : List String} (h : validateDefinition isFile directory d = .ok findings) :
    (∀ p ∈ d.parts, p.findings isFile directory = .ok (p.messages isFile directory)) ∧
      findings = d.parts.flatMap (Part.messages isFile directory) ∧
      (findings = [] ↔ ∀ p ∈ d.parts, p.findings isFile directory = .ok []) ∧
      (d.parts.map Part.place).Nodup ∧
      (∀ (p : Part) (found : List String), p.place ≠ .signals →
        p.findings isFile directory = .ok found →
          validateDefinition isFile directory (d.put p) = .ok (d.parts.flatMap fun q =>
            if q.place = p.place then found else q.messages isFile directory)) ∧
      ∀ xs ys, validateInputs xs = inputsFrom 0 xs ∧
        validateInputs (xs ++ ys) =
          (do return (← inputsFrom 0 xs) ++ (← inputsFrom xs.length ys)) := by
  rw [validateDefinition_eq] at h
  have hpart : ∀ p ∈ d.parts, p.findings isFile directory = .ok (p.messages isFile directory) := by
    intro p hp
    obtain ⟨found, hfound⟩ := exists_ok_of_collect h (List.mem_map_of_mem hp)
    rw [Part.messages, hfound]
    rfl
  refine ⟨hpart, ?_, ?_, nodup_places d, fun p found hplace hfound => ?_, fun xs ys => ?_⟩
  · exact Except.ok.inj (h.symm.trans (collect_map_eq_ok hpart))
  · have hclean : collect (d.parts.map (Part.findings isFile directory)) = .ok [] ↔ _ :=
      collect_eq_nil
    rwa [h, Except.ok.injEq, List.forall_mem_map] at hclean
  · have hinstead : ∀ q ∈ d.parts, (p.instead q).findings isFile directory =
        .ok (if q.place = p.place then found else q.messages isFile directory) := by
      intro q hq
      unfold Part.instead
      split
      · exact hfound
      · exact hpart q hq
    rw [validateDefinition_eq, parts_put hplace, List.map_map]
    exact collect_map_eq_ok hinstead
  · rw [← validateInputs_eq]
    exact ⟨rfl, validateInputs_append xs ys⟩

/-! ### A definition with several flaws -/

/-- Without a deployment; the second expectation of logs and both expectations of profiles are not
as they should be. -/
def flawed : Definition where
  expected :=
    { logs := [
        { logql := "rolls", signal := { equals := some "rolled" } },
        { logql := "", signal := { equals := some "rolled", count := some ⟨3, 2⟩ } }]
      profiles := [
        { query := "", flamebearers := { equals := some "main" } },
        { query := "cpu", flamebearers := { equals := some "main", regexp := some "run" } }] }

def otherwiseFlawed : Part :=
  .logs 1 { logql := "rolls", signal := { equals := some "rolled", contains := some [] } }

theorem flawed_by_parts :
    validateDefinition (fun _ => .ok true) ⟨"/", []⟩ flawed =
        .ok ["either docker-compose or kubernetes must be set", "logql is empty in logs[1]",
          "count.max is less than count.min in logs[1]", "query is empty in profiles[0]",
          "exactly one of 'equals' or 'regexp' must be set in profiles[1]"] ∧
      validateDefinition (fun _ => .ok true) ⟨"/", []⟩ (flawed.put otherwiseFlawed) =
        .ok ["either docker-compose or kubernetes must be set",
          "'contains' is deprecated, use 'regexp' instead in logs[1]",
          "query is empty in profiles[0]",
          "exactly one of 'equals' or 'regexp' must be set in profiles[1]"] := by
  have h : validateDefinition (fun _ => .ok true) ⟨"/", []⟩ flawed =
      .ok ["either docker-compose or kubernetes must be set", "logql is empty in logs[1]",
        "count.max is less than count.min in logs[1]", "query is empty in profiles[0]",
        "exactly one of 'equals' or 'regexp' must be set in profiles[1]"] := by
    decide +kernel
  have hother : otherwiseFlawed.findings (fun _ => .ok true) ⟨"/", []⟩ =
      .ok ["'contains' is deprecated, use 'regexp' instead in logs[1]"] := by
    decide +kernel
  obtain ⟨-, -, -, -, hreplaced, -⟩ := validateDefinition_by_parts h
  refine ⟨h, (hreplaced otherwiseFlawed _ (by decide) hother).trans ?_⟩
  decide +kernel

end Definition
end TelemetryCheck
