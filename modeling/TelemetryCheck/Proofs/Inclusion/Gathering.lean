import TelemetryCheck.Proofs.Inclusion.Walk

/-!
# Gathering along includes

How gathering a definition can end.  It fails at a path that it has come back to, at a file that
cannot be read, at an entry that is no path, or because more calls follow one another than were
allowed.  Where it comes to a definition, nothing that is included leads back to itself.
-/

namespace TelemetryCheck
namespace DefinitionSource

open Relation

section Merging

variable {definitionOf definitionOf' : String → Except Failure Definition} {d merged : Definition}
  {names : List String} {f : Failure}

theorem exists_of_mergeAll_error (h : mergeAll definitionOf d names = .error f) :
    ∃ name ∈ names, definitionOf name = .error f := by
  induction names generalizing d with
  | nil => simp [mergeAll] at h
  | cons name rest ih =>
    rw [mergeAll] at h
    cases hname : definitionOf name with
    | error g =>
      rw [hname] at h
      exact ⟨name, List.mem_cons_self, hname.trans h⟩
    | ok other =>
      rw [hname] at h
      obtain ⟨found, hfound, hf⟩ := ih h
      exact ⟨found, List.mem_cons_of_mem name hfound, hf⟩

theorem forall_of_mergeAll_ok (h : mergeAll definitionOf d names = .ok merged) :
    ∀ name ∈ names, ∃ other, definitionOf name = .ok other := by
  induction names generalizing d with
  | nil => exact fun name hname => absurd hname List.not_mem_nil
  | cons name rest ih =>
    rw [mergeAll] at h
    cases hname : definitionOf name with
    | error g =>
      rw [hname] at h
      cases h
    | ok other =>
      rw [hname] at h
      intro x hx
      rcases List.mem_cons.mp hx with rfl | hx
      · exact ⟨other, hname⟩
      · exact ih h x hx

/-- Merging only asks for definitions up to the first failure, so it is enough that the two agree
where the first one was finished. -/
theorem mergeAll_eq_of_finished (h : mergeAll definitionOf d names ≠ .error .unfinished)
    (heq : ∀ name, definitionOf name ≠ .error .unfinished →
      definitionOf' name = definitionOf name) :
    mergeAll definitionOf' d names = mergeAll definitionOf d names := by
  induction names generalizing d with
  | nil => rfl
  | cons name rest ih =>
    have hname : definitionOf name ≠ .error .unfinished := by
      intro hname
      rw [mergeAll, hname] at h
      exact h rfl
    rw [mergeAll, mergeAll, heq name hname]
    rw [mergeAll] at h
    cases hother : definitionOf name with
    | error g => rfl
    | ok other =>
      rw [hother] at h
      exact ih h

end Merging

variable (s : DefinitionSource)

def entry (depth : Nat) (chain : List Path) (p : Path) (name : String) :
    Except Failure Definition :=
  match s.locate p name with
  | .ok q => s.gather depth (chain ++ [p]) q
  | .error f => .error f

variable {s} {start p q : Path} {chain : List Path} {depth : Nat} {d merged : Definition}
  {f : Failure}

theorem entry_eq_ok {name : String} {other : Definition}
    (h : s.entry depth chain p name = .ok other) :
    ∃ q, s.locate p name = .ok q ∧ s.gather depth (chain ++ [p]) q = .ok other := by
  unfold entry at h
  cases hq : s.locate p name with
  | error f =>
    rw [hq] at h
    cases h
  | ok q =>
    rw [hq] at h
    exact ⟨q, rfl, h⟩

theorem entry_eq_error {name : String} (h : s.entry depth chain p name = .error f) :
    s.locate p name = .error f ∨
      ∃ q, s.locate p name = .ok q ∧ s.gather depth (chain ++ [p]) q = .error f := by
  unfold entry at h
  cases hq : s.locate p name with
  | error g =>
    rw [hq] at h
    cases h
    exact .inl rfl
  | ok q =>
    rw [hq] at h
    exact .inr ⟨q, rfl, h⟩

theorem gather_of_read_error (hp : p ∉ chain) (hd : s.read p = .error f) :
    s.gather (depth + 1) chain p = .error f := by
  rw [gather, if_neg (by rwa [List.contains_iff_mem]), hd]

theorem gather_of_read (hp : p ∉ chain) (hd : s.read p = .ok d) :
    s.gather (depth + 1) chain p =
      (mergeAll (s.entry depth chain p) d d.includes).map closed := by
  rw [gather, if_neg (by rwa [List.contains_iff_mem]), hd]
  rfl

/-- A call that comes to a definition has read its file, and each entry in it has come to one. -/
theorem gather_ok_cases (h : s.gather (depth + 1) chain p = .ok merged) :
    p ∉ chain ∧ ∃ d, s.read p = .ok d ∧
      (mergeAll (s.entry depth chain p) d d.includes).map closed = .ok merged ∧
      ∀ name ∈ d.includes, ∃ q other,
        s.locate p name = .ok q ∧ s.gather depth (chain ++ [p]) q = .ok other := by
  have hp : p ∉ chain := by
    intro hp
    rw [gather_circular s depth hp] at h
    cases h
  cases hd : s.read p with
  | error f =>
    rw [gather_of_read_error hp hd] at h
    cases h
  | ok d =>
    rw [gather_of_read hp hd] at h
    refine ⟨hp, d, rfl, h, fun name hname => ?_⟩
    cases hm : mergeAll (s.entry depth chain p) d d.includes with
    | error f =>
      rw [hm] at h
      cases h
    | ok m =>
      obtain ⟨other, hother⟩ := forall_of_mergeAll_ok hm name hname
      obtain ⟨q, hq, hgather⟩ := entry_eq_ok hother
      exact ⟨q, other, hq, hgather⟩

/-! ## How gathering fails -/

/-- Why gathering the definition at `start` fails, when at most `limit` calls may follow one
another. -/
inductive Obstacle (s : DefinitionSource) (start : Path) (limit : Nat) : Failure → Prop
  | circular {chain : List Path} {p : Path} :
      s.Calls start chain p → p ∈ chain → Obstacle s start limit (circular chain p)
  | unread {p : Path} {f : Failure} :
      s.Reaches start p → s.read p = .error f → Obstacle s start limit f
  | unlocated {p : Path} {d : Definition} {name : String} {f : Failure} :
      s.Reaches start p → s.read p = .ok d → name ∈ d.includes → s.locate p name = .error f →
        Obstacle s start limit f
  | limit {chain : List Path} {p : Path} :
      s.Calls start chain p → chain.length = limit → Obstacle s start limit .unfinished

theorem obstacle_of_gather_error (hcall : s.Calls start chain p)
    (h : s.gather depth chain p = .error f) : s.Obstacle start (depth + chain.length) f := by
  induction depth generalizing chain p with
  | zero =>
    rw [gather] at h
    cases h
    exact .limit hcall (Nat.zero_add _).symm
  | succ depth ih =>
    by_cases hp : p ∈ chain
    · rw [gather_circular s depth hp] at h
      cases h
      exact .circular hcall hp
    cases hd : s.read p with
    | error g =>
      rw [gather_of_read_error hp hd] at h
      cases h
      exact .unread hcall.reaches hd
    | ok d =>
      rw [gather_of_read hp hd] at h
      cases hm : mergeAll (s.entry depth chain p) d d.includes with
      | ok m =>
        rw [hm] at h
        cases h
      | error g =>
        rw [hm] at h
        cases h
        obtain ⟨name, hname, hentry⟩ := exists_of_mergeAll_error hm
        rcases entry_eq_error hentry with hq | ⟨q, hq, hgather⟩
        · exact .unlocated hcall.reaches hd hname hq
        · have hlength : depth + (chain ++ [p]).length = depth + 1 + chain.length := by
            rw [List.length_append, List.length_singleton]
            omega
          exact hlength ▸ ih (hcall.next hp hd hname hq) hgather

/-- What was finished with some calls left comes to the same with more of them. -/
theorem gather_add (more : Nat) (h : s.gather depth chain p ≠ .error .unfinished) :
    s.gather (depth + more) chain p = s.gather depth chain p := by
  induction depth generalizing chain p with
  | zero => exact absurd rfl h
  | succ depth ih =>
    rw [Nat.add_right_comm]
    by_cases hp : p ∈ chain
    · rw [gather_circular s _ hp, gather_circular s _ hp]
    cases hd : s.read p with
    | error g => rw [gather_of_read_error hp hd, gather_of_read_error hp hd]
    | ok d =>
      rw [gather_of_read hp hd] at h
      have hfinished : mergeAll (s.entry depth chain p) d d.includes ≠ .error .unfinished := by
        intro hm
        rw [hm] at h
        exact h rfl
      rw [gather_of_read hp hd, gather_of_read hp hd, mergeAll_eq_of_finished hfinished]
      intro name hname
      unfold entry at hname ⊢
      cases hq : s.locate p name with
      | error g => rfl
      | ok q =>
        rw [hq] at hname
        exact ih hname

/-! ## What gathering settles -/

/-- Where gathering comes to a definition, everything included was read, nothing of it is on the
chain, and nothing of it includes itself.  The induction is on the calls left: a path that is met
below `p` is not `p`, since it is not on the longer chain. -/
theorem settled_of_gather (h : s.gather depth chain p = .ok merged) (hq : s.Reaches p q) :
    q ∉ chain ∧ ¬TransGen s.Includes q q ∧
      ∃ d, s.read q = .ok d ∧ ∀ name ∈ d.includes, ∃ r, s.locate q name = .ok r := by
  induction depth generalizing chain p merged with
  | zero =>
    rw [gather] at h
    cases h
  | succ depth ih =>
    obtain ⟨hp, d, hd, -, hentries⟩ := gather_ok_cases h
    have hbelow : ∀ c, s.Includes p c →
        ∃ other, s.gather depth (chain ++ [p]) c = .ok other := by
      intro c h
      obtain ⟨d', name, hd', hname, hc⟩ := h
      rw [hd, Except.ok.injEq] at hd'
      subst hd'
      obtain ⟨c', other, hc', hother⟩ := hentries name hname
      rw [hc, Except.ok.injEq] at hc'
      subst hc'
      exact ⟨other, hother⟩
    rcases hq.cases_head with rfl | ⟨c, hc, hcq⟩
    · refine ⟨hp, fun hcycle => ?_, d, hd, fun name hname => ?_⟩
      · obtain ⟨c, hc, hback⟩ := TransGen.head'_iff.mp hcycle
        obtain ⟨other, hother⟩ := hbelow c hc
        have hnot := (ih hother hback).1
        exact hnot (List.mem_append_right _ (List.mem_singleton_self _))
      · obtain ⟨r, -, hr, -⟩ := hentries name hname
        exact ⟨r, hr⟩
    · obtain ⟨other, hother⟩ := hbelow c hc
      obtain ⟨hnot, hrest⟩ := ih hother hcq
      exact ⟨fun hmem => hnot (List.mem_append_left _ hmem), hrest⟩

theorem complete_of_gather (h : s.gather depth chain p = .ok merged) : s.Complete p :=
  fun _ hq => (settled_of_gather h hq).2.2

theorem not_cyclic_of_gather (h : s.gather depth chain p = .ok merged) : ¬s.Cyclic p :=
  fun ⟨_, hq, hcycle⟩ => (settled_of_gather h hq).2.1 hcycle

/-- Where everything included is there and enough calls are allowed, gathering comes to a definition
or back to its chain. -/
theorem gather_of_complete (hcomplete : s.Complete p)
    (hlimit : ∀ chain q, s.Calls p chain q → chain.length < depth) :
    (∃ merged, s.gather depth [] p = .ok merged) ∨
      ∃ chain q, s.Calls p chain q ∧ q ∈ chain ∧
        s.gather depth [] p = .error (circular chain q) := by
  cases h : s.gather depth [] p with
  | ok merged => exact .inl ⟨merged, rfl⟩
  | error f =>
    cases obstacle_of_gather_error .first h with
    | circular hcall hmem => exact .inr ⟨_, _, hcall, hmem, rfl⟩
    | unread hreach hf =>
      obtain ⟨d, hd, -⟩ := hcomplete _ hreach
      rw [hd] at hf
      cases hf
    | unlocated hreach hd hname hf =>
      obtain ⟨d', hd', hentries⟩ := hcomplete _ hreach
      rw [hd, Except.ok.injEq] at hd'
      obtain ⟨q, hq⟩ := hentries _ (hd' ▸ hname)
      rw [hq] at hf
      cases hf
    | limit hcall hlength =>
      have hlt := hlimit _ _ hcall
      rw [hlength, List.length_nil] at hlt
      omega

end DefinitionSource
end TelemetryCheck
