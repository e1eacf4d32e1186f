import TelemetryCheck.Proofs.Inclusion.Gathering

/-!
# Flattening includes

The definitions of a file and of all that it includes form a list, the including file before what
it includes.  Such a list stands for one definition, and gathering comes to that definition.
-/

namespace TelemetryCheck
namespace Definition

/-- The definitions of a list as one: lists are joined in order, what is set counts where it is
first set, and nothing is left to include. -/
def combined (ds : List Definition) : Definition where
  includes := []
  dockerCompose := ds.findSome? fun d => d.dockerCompose
  kubernetes := ds.findSome? fun d => d.kubernetes
  matrix := ds.flatMap fun d => d.matrix
  input := ds.flatMap fun d => d.input
  interval := ds.findSome? fun d => d.interval
  expected :=
    { composeLogs := ds.flatMap fun d => d.expected.composeLogs
      logs := ds.flatMap fun d => d.expected.logs
      traces := ds.flatMap fun d => d.expected.traces
      metrics := ds.flatMap fun d => d.expected.metrics
      profiles := ds.flatMap fun d => d.expected.profiles
      customChecks := ds.flatMap fun d => d.expected.customChecks }

theorem merge_combined_nil (d : Definition) : d.merge (combined []) = d := by
  simp [merge, combined, Expected.append]

/-- Merging one list after the other is merging them as one list. -/
theorem merge_combined_merge_combined (d : Definition) (ds es : List Definition) :
    (d.merge (combined ds)).merge (combined es) = d.merge (combined (ds ++ es)) := by
  simp only [merge, combined, Expected.append, List.flatMap_append, List.findSome?_append,
    List.append_assoc, Option.orElse_eq_orElse, Option.orElse_eq_or, Option.or_assoc]

theorem closed_merge_combined (d : Definition) (ds : List Definition) :
    DefinitionSource.closed (d.merge (combined ds)) = combined (d :: ds) := by
  have hfirst : ∀ {α : Type} (f : Definition → Option α),
      (f d <|> ds.findSome? f) = (d :: ds).findSome? f := by
    intro α f
    rw [List.findSome?_cons]
    cases f d <;> rfl
  simp only [DefinitionSource.closed, merge, combined, Expected.append, List.flatMap_cons, hfirst]

end Definition

namespace DefinitionSource

open Definition

mutual

/-- The definitions of the file at a path and of all that it includes: the file itself first, then
what each of its entries stands for, in order and with all that follows from it.  A file that is
included in two ways is in the list twice. -/
inductive Preorder (s : DefinitionSource) : Path → List Definition → Prop
  | file {p : Path} {d : Definition} {below : List Definition} :
      s.read p = .ok d → Entries s p d.includes below → Preorder s p (d :: below)

/-- The definitions that follow from entries in the file at a path; an entry is a path seen from
that file. -/
inductive Entries (s : DefinitionSource) : Path → List String → List Definition → Prop
  | nil {p : Path} : Entries s p [] []
  | cons {p q : Path} {name : String} {names : List String} {first rest : List Definition} :
      s.locate p name = .ok q → Preorder s q first → Entries s p names rest →
        Entries s p (name :: names) (first ++ rest)

end

variable {s : DefinitionSource} {p : Path} {chain : List Path} {depth : Nat}

mutual

/-- No path has two such lists, so a definition that was loaded is that of one list alone. -/
theorem Preorder.unique {p : Path} {ds es : List Definition} :
    s.Preorder p ds → s.Preorder p es → ds = es
  | .file hd hbelow, .file hd' hbelow' => by
    rw [hd, Except.ok.injEq] at hd'
    subst hd'
    rw [Entries.unique hbelow hbelow']

theorem Entries.unique {p : Path} {names : List String} {ds es : List Definition} :
    s.Entries p names ds → s.Entries p names es → ds = es
  | .nil, .nil => rfl
  | .cons hq hfirst hrest, .cons hq' hfirst' hrest' => by
    rw [hq, Except.ok.injEq] at hq'
    subst hq'
    rw [Preorder.unique hfirst hfirst', Entries.unique hrest hrest']

end

/-- Merging entries one after the other.  The induction is on the entries, and `before` holds what
was merged already. -/
theorem entries_of_mergeAll {definitionOf : String → Except Failure Definition}
    {names : List String} {d merged : Definition} {before : List Definition}
    (hentry : ∀ name other, definitionOf name = .ok other →
      ∃ q ds, s.locate p name = .ok q ∧ s.Preorder q ds ∧ other = combined ds)
    (h : mergeAll definitionOf (d.merge (combined before)) names = .ok merged) :
    ∃ below, s.Entries p names below ∧ merged = d.merge (combined (before ++ below)) := by
  induction names generalizing before with
  | nil =>
    cases h
    exact ⟨[], .nil, by rw [List.append_nil]⟩
  | cons name rest ih =>
    rw [mergeAll] at h
    cases hname : definitionOf name with
    | error f =>
      rw [hname] at h
      cases h
    | ok other =>
      obtain ⟨q, first, hq, hfirst, rfl⟩ := hentry name other hname
      rw [hname] at h
      simp only [merge_combined_merge_combined] at h
      obtain ⟨below, hbelow, rfl⟩ := ih h
      exact ⟨first ++ below, .cons hq hfirst hbelow, by rw [List.append_assoc]⟩

theorem preorder_of_gather {merged : Definition} (h : s.gather depth chain p = .ok merged) :
    ∃ ds, s.Preorder p ds ∧ merged = combined ds := by
  induction depth generalizing chain p merged with
  | zero =>
    rw [gather] at h
    cases h
  | succ depth ih =>
    obtain ⟨-, d, hd, hmerged, -⟩ := gather_ok_cases h
    have hentry : ∀ name other, s.entry depth chain p name = .ok other →
        ∃ q ds, s.locate p name = .ok q ∧ s.Preorder q ds ∧ other = combined ds := by
      intro name other hother
      obtain ⟨q, hq, hgather⟩ := entry_eq_ok hother
      obtain ⟨ds, hds, hcombined⟩ := ih hgather
      exact ⟨q, ds, hq, hds, hcombined⟩
    cases hm : mergeAll (s.entry depth chain p) d d.includes with
    | error f =>
      rw [hm] at hmerged
      cases hmerged
    | ok m =>
      rw [hm] at hmerged
      cases hmerged
      -- at first nothing is merged into the file's own definition
      rw [← merge_combined_nil d, merge_includes] at hm
      obtain ⟨below, hbelow, rfl⟩ := entries_of_mergeAll hentry hm
      rw [List.nil_append]
      exact ⟨d :: below, .file hd hbelow, closed_merge_combined d below⟩

end DefinitionSource
end TelemetryCheck
