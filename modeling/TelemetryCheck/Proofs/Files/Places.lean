import Mathlib.Data.List.Nodup
import Mathlib.Data.List.Perm.Subperm
import TelemetryCheck.Files

/-!
# Places in a tree of files

A resolved path is absolute and has no `..`, so a walk along it only goes down.  What it comes to
is listed among what is below the tree, and there are only so many such places.
-/

namespace TelemetryCheck

namespace FileTree

variable {t below : FileTree} {name : String} {names : List String}

theorem child?_mem (h : t.child? name = some below) : (name, below) ∈ t.entries := by
  unfold child? at h
  generalize t.entries = es at h
  induction es with
  | nil => simp [Json.field?] at h
  | cons e rest ih =>
    obtain ⟨key, value⟩ := e
    rw [Json.field?] at h
    split at h
    · rename_i hkey
      rw [Option.some.injEq] at h
      rw [hkey, h]
      exact List.mem_cons_self
    · exact List.mem_cons_of_mem _ (ih h)

theorem mem_entryNames {es : List (String × FileTree)} (h : (name, below) ∈ es) :
    [name] ∈ entryNames es ∧ ∀ names ∈ namesBelow below, name :: names ∈ entryNames es := by
  induction es with
  | nil => exact absurd h List.not_mem_nil
  | cons e rest ih =>
    obtain ⟨key, value⟩ := e
    rw [entryNames]
    rcases List.mem_cons.mp h with he | he
    · rw [Prod.mk.injEq] at he
      obtain ⟨rfl, rfl⟩ := he
      refine ⟨List.mem_append_left _ List.mem_cons_self, fun names hnames => ?_⟩
      exact List.mem_append_left _ (List.mem_cons_of_mem _ (List.mem_map_of_mem hnames))
    · exact ⟨List.mem_append_right _ (ih he).1,
        fun names hnames => List.mem_append_right _ ((ih he).2 names hnames)⟩

/-- Whatever can be reached by names is listed below the tree. -/
theorem mem_namesBelow_of_at? (hne : names ≠ []) (h : at? names t = some below) :
    names ∈ namesBelow t := by
  induction names generalizing t with
  | nil => exact absurd rfl hne
  | cons name rest ih =>
    cases t with
    | file content => simp [at?, child?, entries, Json.field?] at h
    | directory es =>
      rw [at?] at h
      obtain ⟨child, hchild, hrest⟩ := Option.bind_eq_some_iff.mp h
      have hmem : (name, child) ∈ es := child?_mem hchild
      rw [namesBelow]
      by_cases hnil : rest = []
      · rw [hnil]
        exact (mem_entryNames hmem).1
      · exact (mem_entryNames hmem).2 rest (ih hnil hrest)

end FileTree

namespace Path

/-- An absolute path without `..`. -/
def Resolved (p : Path) : Prop := p.root = "/" ∧ ".." ∉ p.parts

theorem dots_not_mem_foldDots {done names : List String} (h : ".." ∉ done) :
    ".." ∉ foldDots done names := by
  induction names generalizing done with
  | nil => rwa [foldDots, List.mem_reverse]
  | cons name rest ih =>
    by_cases hname : name = ".."
    · subst hname
      rw [foldDots]
      exact ih fun hdrop => h (List.mem_of_mem_drop hdrop)
    · rw [foldDots]
      · refine ih fun hcons => ?_
        rcases List.mem_cons.mp hcons with hdots | hdots
        · exact hname hdots.symm
        · exact h hdots
      · exact hname

theorem resolved_resolve (cwd p : Path) : (resolve cwd p).Resolved :=
  ⟨rfl, dots_not_mem_foldDots List.not_mem_nil⟩

end Path

namespace Files

variable {files : Files} {p : Path}

theorem eq_resolve_of_locate {path : Path} (h : files.locate path = .ok p) :
    p = files.resolve path := by
  unfold locate at h
  split at h
  · cases h
  · cases h
    rfl

theorem resolved_of_locate {path : Path} (h : files.locate path = .ok p) : p.Resolved := by
  rw [eq_resolve_of_locate h]
  exact Path.resolved_resolve _ _

theorem at?_of_walk {above above' : List (String × FileTree)} {here t : FileTree}
    {names : List String} (hdots : ".." ∉ names) (h : walk above here names = .ok (above', t)) :
    here.at? names = some t := by
  induction names generalizing above here with
  | nil =>
    cases h
    rfl
  | cons name rest ih =>
    -- a name other than `..` only leads down, whatever lies above
    rw [List.mem_cons, not_or] at hdots
    cases here with
    | file content => cases h
    | directory es =>
      simp only [walk, if_neg (Ne.symm hdots.1)] at h
      split at h
      · cases h
      cases hchild : (FileTree.directory es).child? name with
      | none =>
        rw [hchild] at h
        cases h
      | some child =>
        rw [hchild] at h
        rw [FileTree.at?, hchild]
        exact ih hdots.2 h

/-- What a resolved path leads to is at its names. -/
theorem at?_of_find {names : List String} {t : FileTree} (hp : p.Resolved)
    (h : files.find p = .ok (names, t)) : files.tree.at? p.parts = some t := by
  have hparts : (files.cwd ++ p).parts = p.parts := by
    show (files.cwd.append p).parts = p.parts
    rw [Path.append, if_pos (by rw [Path.isAbsolute, hp.1]; decide)]
  unfold find Files.names at h
  rw [hparts] at h
  split at h
  · cases h
  split at h
  · cases h
  replace h : (walk [] files.tree p.parts >>= fun w => pure (namesOf w.1, w.2)) =
      .ok (names, t) := h
  cases hw : walk [] files.tree p.parts with
  | error e =>
    rw [hw] at h
    cases h
  | ok w =>
    rw [hw] at h
    cases h
    exact at?_of_walk hp.2 hw

/-- The names of all places in the tree: the tree itself and what is below it. -/
def places (files : Files) : List (List String) := [] :: files.tree.namesBelow

theorem parts_mem_places (hp : p.Resolved) (h : files.isFile p = .ok true) :
    p.parts ∈ files.places := by
  unfold isFile test at h
  cases hfind : files.find p with
  | error e =>
    rw [hfind] at h
    simp only at h
    split at h <;> cases h
  | ok found =>
    have hat : files.tree.at? p.parts = some found.2 := at?_of_find hp hfind
    by_cases hnil : p.parts = []
    · rw [hnil]
      exact List.mem_cons_self
    · exact List.mem_cons_of_mem _ (FileTree.mem_namesBelow_of_at? hnil hat)

/-- Among files at resolved paths, no more than the places of the tree differ. -/
theorem length_le_of_isFile {paths : List Path} (hnodup : paths.Nodup)
    (h : ∀ p ∈ paths, p.Resolved ∧ files.isFile p = .ok true) :
    paths.length ≤ files.places.length := by
  -- resolved paths have one root, so different ones have different names
  have hparts : (paths.map Path.parts).Nodup := by
    refine List.Nodup.map_on (fun p hp q hq hpq => ?_) hnodup
    obtain ⟨root, parts⟩ := p
    obtain ⟨root', parts'⟩ := q
    have hroot : root = "/" := (h _ hp).1.1
    have hroot' : root' = "/" := (h _ hq).1.1
    rw [hroot, hroot', show parts = parts' from hpq]
  have hsubset : paths.map Path.parts ⊆ files.places := by
    intro names hnames
    obtain ⟨p, hp, rfl⟩ := List.mem_map.mp hnames
    exact parts_mem_places (h p hp).1 (h p hp).2
  have hlength : (paths.map Path.parts).length = paths.length := List.length_map _
  exact hlength ▸ (List.subperm_of_subset hparts hsubset).length_le

end Files
end TelemetryCheck
