import Mathlib.Data.List.Chain
import Mathlib.Logic.Relation
import TelemetryCheck.Inclusion

/-!
# Walks along includes

Inclusion as a graph between paths, and the calls that gathering a definition makes on it.  A call
comes with the chain of the paths that led to it.  That chain is a walk along includes which never
meets a path twice, and every path on it could be read.
-/

namespace TelemetryCheck
namespace DefinitionSource

open Relation

variable (s : DefinitionSource)

def Includes (p q : Path) : Prop :=
  ∃ d name, s.read p = .ok d ∧ name ∈ d.includes ∧ s.locate p name = .ok q

theorem includes_iff_of_read {p q : Path} {d : Definition} (hd : s.read p = .ok d) :
    s.Includes p q ↔ ∃ name ∈ d.includes, (s.locate p name).toOption = some q := by
  constructor
  · intro h
    obtain ⟨d', name, hd', hname, hq⟩ := h
    rw [hd, Except.ok.injEq] at hd'
    exact ⟨name, hd' ▸ hname, by rw [hq]; rfl⟩
  · intro h
    obtain ⟨name, hname, hq⟩ := h
    cases hlocate : s.locate p name with
    | error f =>
      rw [hlocate] at hq
      cases hq
    | ok r =>
      rw [hlocate] at hq
      cases hq
      exact ⟨d, name, hd, hname, hlocate⟩

instance (p q : Path) : Decidable (s.Includes p q) :=
  match hd : s.read p with
  | .ok _ => decidable_of_iff _ (s.includes_iff_of_read hd).symm
  | .error _ => isFalse fun ⟨_, _, hd', _⟩ => nomatch hd.symm.trans hd'

def Reaches (start q : Path) : Prop := ReflTransGen s.Includes start q

/-- Everything that is included from `start`, at any depth, is there and can be read. -/
def Complete (start : Path) : Prop :=
  ∀ p, s.Reaches start p →
    ∃ d, s.read p = .ok d ∧ ∀ name ∈ d.includes, ∃ q, s.locate p name = .ok q

/-- Some file that is included from `start` includes itself, directly or not. -/
def Cyclic (start : Path) : Prop := ∃ p, s.Reaches start p ∧ TransGen s.Includes p p

/-- A walk along includes that ends at the only path it meets twice. -/
structure Lasso (start : Path) (chain : List Path) (q : Path) : Prop where
  starts : (chain ++ [q]).head? = some start
  walks : (chain ++ [q]).IsChain s.Includes
  distinct : chain.Nodup
  returns : q ∈ chain

/-- The calls that gathering the definition at `start` may lead to, each with its chain. -/
inductive Calls (start : Path) : List Path → Path → Prop
  | first : Calls start [] start
  | next {chain : List Path} {p q : Path} {d : Definition} {name : String} :
      Calls start chain p → p ∉ chain → s.read p = .ok d → name ∈ d.includes →
        s.locate p name = .ok q → Calls start (chain ++ [p]) q

def closedUnder (ps : List Path) : Bool :=
  ps.all fun p =>
    match s.read p with
    | .ok d => d.includes.all fun name =>
      match s.locate p name with
      | .ok q => ps.contains q
      | .error _ => false
    | .error _ => false

variable {s} {start p q : Path} {chain : List Path}

theorem complete_of_closedUnder {ps : List Path} (hstart : start ∈ ps)
    (h : s.closedUnder ps = true) : s.Complete start := by
  have hread : ∀ p ∈ ps,
      ∃ d, s.read p = .ok d ∧ ∀ name ∈ d.includes, ∃ q ∈ ps, s.locate p name = .ok q := by
    intro p hp
    have hp := List.all_eq_true.mp h p hp
    split at hp
    · rename_i d hd
      refine ⟨d, hd, fun name hname => ?_⟩
      have hname := List.all_eq_true.mp hp name hname
      split at hname
      · rename_i q hq
        exact ⟨q, List.contains_iff_mem.mp hname, hq⟩
      · cases hname
    · cases hp
  have hmem : ∀ p, s.Reaches start p → p ∈ ps := by
    intro p hp
    induction hp with
    | refl => exact hstart
    | tail _ hstep ih =>
      obtain ⟨d', name, hd', hname, hq⟩ := hstep
      obtain ⟨d, hd, hentries⟩ := hread _ ih
      rw [hd, Except.ok.injEq] at hd'
      obtain ⟨q, hqmem, hq'⟩ := hentries name (hd' ▸ hname)
      rw [hq, Except.ok.injEq] at hq'
      exact hq' ▸ hqmem
  intro p hp
  obtain ⟨d, hd, hentries⟩ := hread p (hmem p hp)
  refine ⟨d, hd, fun name hname => ?_⟩
  obtain ⟨q, -, hq⟩ := hentries name hname
  exact ⟨q, hq⟩

namespace Calls

theorem nodup (h : s.Calls start chain p) : chain.Nodup := by
  induction h with
  | first => exact List.nodup_nil
  | next _ hp _ _ _ ih =>
    rw [List.nodup_append]
    refine ⟨ih, by simp, fun a ha b hb => ?_⟩
    rw [List.mem_singleton.mp hb]
    exact fun hab => hp (hab ▸ ha)

/-- What holds of the start and of everything that is located holds of every path of a call. -/
theorem forall_of_located {P : Path → Prop} (hstart : P start)
    (hlocate : ∀ p name q, s.locate p name = .ok q → P q) (h : s.Calls start chain p) :
    (∀ x ∈ chain, P x) ∧ P p := by
  induction h with
  | first => exact ⟨fun x hx => absurd hx List.not_mem_nil, hstart⟩
  | next _ _ _ _ hq ih =>
    refine ⟨fun x hx => ?_, hlocate _ _ _ hq⟩
    rcases List.mem_append.mp hx with hx | hx
    · exact ih.1 x hx
    · exact List.mem_singleton.mp hx ▸ ih.2

theorem read_of_mem (h : s.Calls start chain p) : ∀ x ∈ chain, ∃ d, s.read x = .ok d := by
  induction h with
  | first => exact fun x hx => absurd hx List.not_mem_nil
  | next _ _ hd _ _ ih =>
    intro x hx
    rcases List.mem_append.mp hx with hx | hx
    · exact ih x hx
    · exact ⟨_, List.mem_singleton.mp hx ▸ hd⟩

/-- The chain with the path called last is a walk along includes. -/
theorem isChain (h : s.Calls start chain p) : (chain ++ [p]).IsChain s.Includes := by
  induction h with
  | first => exact List.isChain_singleton _
  | next _ _ hd hname hq ih =>
    refine ih.append (List.isChain_singleton _) fun x hx y hy => ?_
    rw [List.getLast?_concat, Option.mem_some_iff] at hx
    rw [List.head?_cons, Option.mem_some_iff] at hy
    subst hx hy
    exact ⟨_, _, hd, hname, hq⟩

theorem head? (h : s.Calls start chain p) : (chain ++ [p]).head? = some start := by
  induction h with
  | first => rfl
  | next _ _ _ _ _ ih =>
    rw [List.head?_append, ih]
    rfl

theorem reaches (h : s.Calls start chain p) : s.Reaches start p := by
  induction h with
  | first => exact .refl
  | next _ _ hd hname hq ih => exact ih.tail ⟨_, _, hd, hname, hq⟩

/-- Every path of the chain leads on to the path called last. -/
theorem transGen_of_mem (h : s.Calls start chain p) : ∀ x ∈ chain, TransGen s.Includes x p := by
  induction h with
  | first => exact fun x hx => absurd hx List.not_mem_nil
  | next _ _ hd hname hq ih =>
    intro x hx
    have hstep : s.Includes _ _ := ⟨_, _, hd, hname, hq⟩
    rcases List.mem_append.mp hx with hx | hx
    · exact (ih x hx).tail hstep
    · rw [List.mem_singleton.mp hx]
      exact .single hstep

/-- A call that comes back to its chain has gone around a cycle. -/
theorem lasso (h : s.Calls start chain p) (hp : p ∈ chain) : s.Lasso start chain p :=
  ⟨h.head?, h.isChain, h.nodup, hp⟩

/-- A call that comes back to its chain has found a cycle. -/
theorem cyclic (h : s.Calls start chain p) (hp : p ∈ chain) : s.Cyclic start :=
  ⟨p, h.reaches, h.transGen_of_mem p hp⟩

end Calls
end DefinitionSource
end TelemetryCheck
