import Mathlib.Data.List.Nodup
import TelemetryCheck.Proofs.Files.Places
import TelemetryCheck.Proofs.Json.Fields

/-!
# The order of a listing

A directory lists its entries in an order of its own.  Trees that differ in that order alone hold
the same things under the same names.
-/

namespace TelemetryCheck

namespace FileTree

variable {t t' below : FileTree} {es : List (String × FileTree)} {name : String}

/-- No directory has two entries of one name. -/
inductive Distinct : FileTree → Prop
  | file (content : FileContent) : Distinct (.file content)
  | directory {es : List (String × FileTree)} (names : (es.map (·.1)).Nodup)
      (below : ∀ e ∈ es, Distinct e.2) : Distinct (.directory es)

/-- Every directory has the same entries, in whatever order each lists them. -/
inductive Relisted : FileTree → FileTree → Prop
  | file (content : FileContent) : Relisted (.file content) (.file content)
  | directory {es es' : List (String × FileTree)}
      (names : (es.map (·.1)).Perm (es'.map (·.1)))
      (below : ∀ e ∈ es, ∀ e' ∈ es', e.1 = e'.1 → Relisted e.2 e'.2) :
      Relisted (.directory es) (.directory es')

theorem at?_singleton (t : FileTree) (name : String) : t.at? [name] = t.child? name := by
  rw [at?]
  cases t.child? name <;> rfl

theorem child?_directory_iff (hnames : (es.map (·.1)).Nodup) :
    (directory es).child? name = some below ↔ (name, below) ∈ es := by
  refine ⟨child?_mem, fun hmem => ?_⟩
  have hsome : ((directory es).child? name).isSome :=
    Json.isSome_field?_iff.mpr (List.mem_map_of_mem hmem)
  obtain ⟨other, hother⟩ := Option.isSome_iff_exists.mp hsome
  have hsame : (name, other) = (name, below) :=
    List.inj_on_of_nodup_map hnames (child?_mem hother) hmem rfl
  rw [hother, (Prod.mk.inj hsame).2]

theorem Relisted.distinct (h : Relisted t t') (ht : Distinct t) : Distinct t' := by
  induction h with
  | file content => exact .file content
  | @directory es es' names below ih =>
    cases ht with
    | directory hnames hbelow =>
      refine .directory (names.nodup_iff.mp hnames) fun e' he' => ?_
      obtain ⟨e, he, hname⟩ := List.mem_map.mp (names.mem_iff.mpr (List.mem_map_of_mem he'))
      exact ih e he e' he' hname (hbelow e he)

theorem Relisted.refl (ht : Distinct t) : Relisted t t := by
  induction ht with
  | file content => exact .file content
  | directory names below ih =>
    refine .directory (.refl _) fun e he e' he' hname => ?_
    rw [← List.inj_on_of_nodup_map names he he' hname]
    exact ih e he

theorem Relisted.of_perm (ht : Distinct (.directory es)) {es' : List (String × FileTree)}
    (h : es.Perm es') : Relisted (.directory es) (.directory es') := by
  cases ht with
  | directory names below =>
    refine .directory (h.map _) fun e he e' he' hname => ?_
    rw [← List.inj_on_of_nodup_map names he (h.mem_iff.mpr he') hname]
    exact .refl (below e he)

theorem Relisted.child? (h : Relisted t t') :
    Option.Rel Relisted (t.child? name) (t'.child? name) := by
  cases h with
  | file content => exact .none
  | @directory es es' names below =>
    cases hchild : (FileTree.directory es).child? name with
    | none =>
      have hnone := names.mem_iff.not.mp (Json.field?_eq_none_iff.mp hchild)
      have hchild' : (FileTree.directory es').child? name = none := Json.field?_eq_none_iff.mpr hnone
      rw [hchild']
      exact .none
    | some u =>
      have hname : name ∈ es'.map (·.1) :=
        names.mem_iff.mp (List.mem_map_of_mem (child?_mem hchild))
      have hsome : ((FileTree.directory es').child? name).isSome := Json.isSome_field?_iff.mpr hname
      obtain ⟨u', hu'⟩ := Option.isSome_iff_exists.mp hsome
      rw [hu']
      exact .some (below _ (child?_mem hchild) _ (child?_mem hu') rfl)

/-- The same names lead to the same things. -/
theorem Relisted.at? (h : Relisted t t') (names : List String) :
    Option.Rel Relisted (t.at? names) (t'.at? names) := by
  induction names generalizing t t' with
  | nil => exact .some h
  | cons name rest ih =>
    rw [FileTree.at?, FileTree.at?]
    have hchild : Option.Rel Relisted (t.child? name) (t'.child? name) := h.child?
    generalize t.child? name = c, t'.child? name = c' at hchild
    cases hchild with
    | none => exact .none
    | some hbelow => exact ih hbelow

theorem Relisted.at?_eq_none_iff (h : Relisted t t') {names : List String} :
    t.at? names = none ↔ t'.at? names = none := by
  have hat := h.at? names
  generalize t.at? names = c, t'.at? names = c' at hat
  cases hat <;> simp

theorem Relisted.at?_eq_file_iff (h : Relisted t t') {names : List String} {c : FileContent} :
    t.at? names = some (.file c) ↔ t'.at? names = some (.file c) := by
  have hat := h.at? names
  generalize t.at? names = u, t'.at? names = u' at hat
  cases hat with
  | none => exact Iff.rfl
  | some hbelow => cases hbelow <;> simp

end FileTree
end TelemetryCheck
