import Mathlib.Data.List.Nodup
import TelemetryCheck.Proofs.Running.Coverage
import TelemetryCheck.TestSuite

/-!
# The variants of a matrix

A definition with a matrix makes one test case for each variant.  They have the expectations in
common, and the conditions on the variant part these among the test cases.
-/

namespace TelemetryCheck

variable {ω τ : Type} {order : List CheckKind} {kind : CheckKind} {e : Expected} {check : Check}

/-! ## What an expectation is meant for -/

inductive MeantFor (variant : Option String) : Option String → Prop
  | always : MeantFor variant none
  | blank : MeantFor variant (some "")
  | named {name : String} : name ≠ "" → variant = some name → MeantFor variant (some name)

theorem appliesTo_iff_meantFor {variant : Option String} {check : Check} :
    Runner.appliesTo variant check = true ↔ MeantFor variant check.condition := by
  rw [Runner.appliesTo_iff]
  cases check.condition with
  | none => exact iff_of_true (.inl rfl) .always
  | some name =>
    by_cases hname : name = ""
    · subst hname
      exact iff_of_true (.inl rfl) .blank
    have hgiven : given? (some name) = some name := by
      rw [given?, Option.filter_some_pos (by simpa using hname)]
    rw [hgiven]
    constructor
    · rintro (hnone | hvariant)
      · cases hnone
      · exact .named hname hvariant.symm
    · intro h
      cases h with
      | blank => exact absurd rfl hname
      | named _ hvariant => exact .inr hvariant.symm

instance (variant : Option String) (check : Check) : Decidable (MeantFor variant check.condition) :=
  decidable_of_iff _ appliesTo_iff_meantFor

/-! ## Checks kind by kind -/

theorem kind_of_mem_checks (h : check ∈ e.checks kind) : check.kind = kind := by
  cases kind <;> (obtain ⟨_, -, rfl⟩ := List.mem_map.mp h; rfl)

theorem checks_filter_kind (e : Expected) (kind other : CheckKind) :
    (e.checks other).filter (fun check => check.kind = kind) =
      if other = kind then e.checks kind else [] := by
  split
  · rename_i hkind
    subst hkind
    exact List.filter_eq_self.mpr fun check h => decide_eq_true (kind_of_mem_checks h)
  · rename_i hkind
    refine List.filter_eq_nil_iff.mpr fun check h => ?_
    rw [kind_of_mem_checks h, decide_eq_true_eq]
    exact hkind

/-- In an order that gives each kind once, each expectation makes one check. -/
theorem checksIn_filter_kind (e : Expected) (hnodup : order.Nodup) (hkind : kind ∈ order) :
    (e.checksIn order).filter (fun check => check.kind = kind) = e.checks kind := by
  rw [Expected.checksIn, List.filter_flatMap]
  simp only [checks_filter_kind]
  induction order with
  | nil => exact absurd hkind List.not_mem_nil
  | cons first rest ih =>
    obtain ⟨hfirst, hrest⟩ := List.nodup_cons.mp hnodup
    rw [List.flatMap_cons]
    by_cases h : first = kind
    · subst h
      have hnil : (rest.flatMap fun other => if other = first then e.checks first else []) = [] :=
        List.flatMap_eq_nil_iff.mpr fun other hother =>
          if_neg (ne_of_mem_of_not_mem hother hfirst)
      rw [if_pos rfl, hnil, List.append_nil]
    · rw [if_neg h, List.nil_append]
      exact ih hrest ((List.mem_cons.mp hkind).resolve_left (Ne.symm h))

theorem checksIn_pairwise (e : Expected) (hnodup : order.Nodup) :
    (e.checksIn order).Pairwise fun a b => order.idxOf a.kind ≤ order.idxOf b.kind := by
  rw [Expected.checksIn, List.pairwise_flatMap]
  constructor
  · intro kind _
    refine List.pairwise_of_forall_mem_list fun a ha b hb => ?_
    exact Nat.le_of_eq (by rw [kind_of_mem_checks ha, kind_of_mem_checks hb])
  · refine List.pairwise_iff_getElem.mpr fun i j hi hj hij a ha b hb => ?_
    rw [kind_of_mem_checks ha, kind_of_mem_checks hb, hnodup.idxOf_getElem i hi,
      hnodup.idxOf_getElem j hj]
    exact Nat.le_of_lt hij

/-- The checks are those that are meant for the variant, each once, kind by kind in this order and
within a kind as the expectations are listed. -/
structure Covers (order : List CheckKind) (e : Expected) (variant : Option String)
    (checks : List Check) : Prop where
  composeLogs : checks.filter (fun check => check.kind = .composeLogs) =
    e.composeLogs.map .composeLogs
  each : ∀ kind, checks.filter (fun check => check.kind = kind) =
    (e.checks kind).filter fun check => MeantFor variant check.condition
  inOrder : checks.Pairwise fun a b => order.idxOf a.kind ≤ order.idxOf b.kind

theorem covers_checksFor {r : Runner ω τ} (c : TestCase τ) (hnodup : r.order.Nodup)
    (hall : ∀ kind, kind ∈ r.order) :
    Covers r.order c.definition.expected c.matrixVariant (r.checksFor c) := by
  have heach : ∀ kind, (r.checksFor c).filter (fun check => check.kind = kind) =
      (c.definition.expected.checks kind).filter
        fun check => MeantFor c.matrixVariant check.condition := by
    intro kind
    rw [Runner.checksFor, List.filter_comm, checksIn_filter_kind _ hnodup (hall kind)]
    refine List.filter_congr fun check _ => ?_
    rw [Bool.eq_iff_iff, appliesTo_iff_meantFor, decide_eq_true_eq]
  refine ⟨?_, heach, (checksIn_pairwise _ hnodup).filter _⟩
  rw [heach]
  refine List.filter_eq_self.mpr fun check hcheck => decide_eq_true ?_
  obtain ⟨message, -, rfl⟩ := List.mem_map.mp hcheck
  exact .always

namespace TestSuite

variable {limits : Limits τ} {path : Path} {name : String} {d : Definition}

/-! ## One test case for each variant -/

/-- The test case of a variant has all of the definition but how the environment is deployed, which
is what the variant says even where it says nothing. -/
structure OfVariant (d : Definition) (v : MatrixVariant) (c : TestCase τ) : Prop where
  variant : c.matrixVariant = some v.name
  definition : c.definition =
    { d with dockerCompose := v.dockerCompose, kubernetes := v.kubernetes }

theorem casesOf_without_matrix (hmatrix : d.matrix = []) :
    casesOf limits path name d = [testCase limits path name d none] := by
  rw [casesOf, hmatrix, List.isEmpty_nil, if_pos rfl]

theorem casesOf_with_matrix (hmatrix : d.matrix ≠ []) :
    List.Forall₂ (OfVariant d) d.matrix (casesOf limits path name d) := by
  rw [casesOf, if_neg (by rwa [List.isEmpty_iff]), List.forall₂_map_right_iff, List.forall₂_same]
  exact fun v _ => ⟨rfl, rfl⟩

theorem expected_of_mem_casesOf {c : TestCase τ} (h : c ∈ casesOf limits path name d) :
    c.definition.expected = d.expected := by
  by_cases hmatrix : d.matrix = []
  · rw [casesOf_without_matrix hmatrix] at h
    rw [List.mem_singleton.mp h]
    rfl
  · rw [casesOf, if_neg (by rwa [List.isEmpty_iff])] at h
    obtain ⟨v, -, rfl⟩ := List.mem_map.mp h
    rfl

def fleetText : String :=
  "docker-compose: {files: [base.yml]}\nmatrix:\n- name: default\n" ++
    "  docker-compose: {files: [app.yml]}\n- name: native\nexpected:\n" ++
    "  logs:\n  - {logql: q, equals: up, matrix-condition: native}\n  compose-logs: [ready]\n"

def fleet : Files := { tree := .directory [("oats.yaml", .file (.bytes fleetText.toUTF8))] }

def fleetExpected : Expected :=
  { composeLogs := ["ready"]
    logs := [{
      logql := "q", signal := { equals := some "up", matrixCondition := some "native" } }] }

theorem fleet_loaded : ∃ d, DefinitionFile.load fleet ⟨"/", ["oats.yaml"]⟩ = .ok d ∧
    d.matrix = [{ name := "default", dockerCompose := some { files := ["app.yml"] } },
      { name := "native" }] ∧ d.expected = fleetExpected := by
  have hload : (DefinitionFile.load fleet ⟨"/", ["oats.yaml"]⟩).toOption.map
      (fun d => (d.matrix, d.expected)) =
        some ([{ name := "default", dockerCompose := some { files := ["app.yml"] } },
          { name := "native" }], fleetExpected) := by
    decide +kernel
  cases h : DefinitionFile.load fleet ⟨"/", ["oats.yaml"]⟩ with
  | error f =>
    rw [h] at hload
    cases hload
  | ok d =>
    rw [h] at hload
    exact ⟨d, rfl, Prod.mk.inj (Option.some.inj hload)⟩

end TestSuite
end TelemetryCheck
