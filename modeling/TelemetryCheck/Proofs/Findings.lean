import TelemetryCheck.Validation

/-!
# Findings

When a collection of findings is empty, and what an empty one says about the parts of a definition.
No part masks another: a collection is empty only if every part was looked at and found sound.
-/

namespace TelemetryCheck

/-- Results can be compared, so what validation comes to can be computed. -/
instance decidableEqExcept {ε α : Type} [DecidableEq ε] [DecidableEq α] :
    DecidableEq (Except ε α)
  | .ok a, .ok b => decidable_of_iff (a = b) (by rw [Except.ok.injEq])
  | .error e, .error f => decidable_of_iff (e = f) (by rw [Except.error.injEq])
  | .ok _, .error _ => isFalse (by simp)
  | .error _, .ok _ => isFalse (by simp)

theorem collect_cons_eq_nil {part : Findings} {rest : List Findings} :
    collect (part :: rest) = .ok [] ↔ part = .ok [] ∧ collect rest = .ok [] := by
  cases part with
  | error e => simp [collect, bind, Except.bind]
  | ok found =>
    cases h : collect rest with
    | error e => simp [collect, h, bind, Except.bind]
    | ok more => simp [collect, h, bind, Except.bind, pure, Except.pure]

theorem collect_eq_nil {parts : List Findings} :
    collect parts = .ok [] ↔ ∀ part ∈ parts, part = .ok [] := by
  induction parts with
  | nil => simp [collect]
  | cons part rest ih => rw [collect_cons_eq_nil, ih, List.forall_mem_cons]

/-- The findings of one item in a list, under the index that it has there. -/
theorem findings_of_mem {α : Type} {look : Nat → α → Findings} {items : List α}
    (h : ∀ part ∈ items.mapIdx look, part = .ok []) {x : α} (hx : x ∈ items) :
    ∃ index, look index x = .ok [] := by
  obtain ⟨index, hi, rfl⟩ := List.getElem_of_mem hx
  exact ⟨index, h _ (List.mem_mapIdx.mpr ⟨index, hi, rfl⟩)⟩

theorem note_eq_nil {condition : Bool} {message : String} :
    note condition message = [] ↔ condition = false := by
  cases condition <;> simp [note]

def Compiles (pattern : String) : Prop := ∃ p, Pattern.compile pattern = .ok p

theorem validatePattern_eq_nil {pattern context what : String} :
    validatePattern pattern context what = .ok [] ↔ Compiles pattern := by
  unfold validatePattern Compiles
  cases h : Pattern.compile pattern with
  | ok p => simp
  | error e => cases e <;> simp

/-- A list of findings that are looked up in one optional text. -/
theorem elim_eq_nil {text : Option String} {look : String → Findings} :
    text.elim (.ok []) look = .ok [] ↔ ∀ s, text = some s → look s = .ok [] := by
  cases text <;> simp

/-- A range that passes asks for nothing at all or for at least one match. -/
theorem least_pos_of_validateCount {count : Option CountRange} {context : String}
    (h : validateCount count context = [])
    (habsent : ∀ r, count = some r → r.isAbsence = false) :
    0 < (count.getD CountRange.atLeastOne).least := by
  cases count with
  | none => decide
  | some r =>
    have hr : r.isAbsence = false := habsent r rfl
    simp only [validateCount, List.append_eq_nil_iff, note_eq_nil, Bool.and_eq_false_iff,
      bne_eq_false_iff_eq, beq_eq_false_iff_ne, decide_eq_false_iff_not, ne_eq] at h
    simp only [CountRange.isAbsence, Bool.and_eq_false_iff, beq_eq_false_iff_ne, ne_eq] at hr
    show 0 < r.least
    omega

theorem attributeFailures_eq_nil {context : String} {attributes : List (String × String)} :
    attributeFailures context attributes = [] ↔
      ∀ a ∈ attributes, a.1.isEmpty = false ∧ a.2.isEmpty = false := by
  simp only [attributeFailures, List.flatMap_eq_nil_iff, List.append_eq_nil_iff, note_eq_nil]

/-- What a definition without findings is known to hold to, part by part. -/
structure Clean (isFile : FileTest) (directory : Path) (d : Definition) : Prop where
  deployment : validateDeployment isFile directory d = .ok []
  inputs : validateInputs d.input = .ok []
  signals : d.expected.signalCount ≠ 0
  customChecks : ∀ part ∈ d.expected.customChecks.mapIdx validateCustomCheck, part = .ok []
  logs : ∀ part ∈ d.expected.logs.mapIdx validateLogs, part = .ok []
  metrics : ∀ part ∈ d.expected.metrics.mapIdx validateMetrics, part = .ok []
  traces : ∀ part ∈ d.expected.traces.mapIdx validateTraces, part = .ok []
  profiles : ∀ part ∈ d.expected.profiles.mapIdx validateProfiles, part = .ok []

theorem clean_of_validateDefinition {isFile : FileTest} {directory : Path} {d : Definition}
    (h : validateDefinition isFile directory d = .ok []) : Clean isFile directory d := by
  rw [validateDefinition, collect_eq_nil] at h
  simp only [validationParts, List.forall_mem_append, List.forall_mem_cons, Except.ok.injEq,
    note_eq_nil, beq_eq_false_iff_ne] at h
  obtain ⟨⟨⟨⟨⟨hparts, hcustom⟩, hlogs⟩, hmetrics⟩, htraces⟩, hprofiles⟩ := h
  obtain ⟨hdeployment, hinputs, hsignals, -⟩ := hparts
  exact ⟨hdeployment, hinputs, hsignals, hcustom, hlogs, hmetrics, htraces, hprofiles⟩

end TelemetryCheck
