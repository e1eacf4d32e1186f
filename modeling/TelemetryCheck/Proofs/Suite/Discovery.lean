import Mathlib.Data.List.Nodup
import TelemetryCheck.Proofs.Files.Relisting
import TelemetryCheck.Proofs.Suite.Reading

/-!
# Discovery

A search lists the names that lead to test cases.  Which names those are can be told from each of
them alone, and they stand in an order of the names alone, so the list does not depend on the order
in which directories list their entries.
-/

namespace TelemetryCheck
namespace Discovery

variable {ω ρ : Type} {t t' : FileTree} {es : List (String × FileTree)} {name : String}
  {names : List String}

/-- The names lead down to a file that holds a test case, and none of the directories on the way,
from the one at the top to the file's own, asks to be left out. -/
structure Reaches (t : FileTree) (names : List String) : Prop where
  file : ∃ content, t.at? names = some (.file content)
  named : ∃ name, names.getLast? = some name ∧ isCaseName name = true
  heeded : ∀ dirs, dirs <+: names.dropLast → t.at? (dirs ++ [ignoreName]) = none

/-- The files of a directory come by name, before everything in its directories, which come by name
in turn. -/
def Before : List String → List String → Prop
  | [x], [y] => x < y
  | [_], _ :: _ :: _ => True
  | x :: x' :: xs, y :: y' :: ys => x < y ∨ x = y ∧ Before (x' :: xs) (y' :: ys)
  | _, _ => False

theorem before_cons_iff {x y : String} {xs ys : List String} (hx : xs ≠ []) (hy : ys ≠ []) :
    Before (x :: xs) (y :: ys) ↔ x < y ∨ x = y ∧ Before xs ys := by
  obtain ⟨x', xs, rfl⟩ := List.exists_cons_of_ne_nil hx
  obtain ⟨y', ys, rfl⟩ := List.exists_cons_of_ne_nil hy
  rw [Before]

theorem before_asymm {xs ys : List String} (h : Before xs ys) : ¬Before ys xs := by
  fun_induction Before xs ys with
  | case1 x y => exact String.lt_asymm h
  | case2 x y y' ys => exact id
  | case3 x x' xs y y' ys ih =>
    rw [before_cons_iff (List.cons_ne_nil _ _) (List.cons_ne_nil _ _)]
    rcases h with hlt | ⟨rfl, hbelow⟩
    · rintro (hgt | ⟨rfl, -⟩)
      · exact String.lt_asymm hlt hgt
      · exact String.lt_irrefl _ hlt
    · rintro (hgt | ⟨-, habove⟩)
      · exact String.lt_irrefl _ hgt
      · exact ih hbelow habove
  | case4 => exact h.elim

/-! ## What a search of a tree comes to -/

def Finding.names? : Finding → Option (List String)
  | .testCase names => some names
  | .ignored _ => none

/-- The names that lead to the test cases of a tree, in the order in which they are found. -/
def found (t : FileTree) : List (List String) := (findings t).filterMap Finding.names?

theorem cases_findings (base : Path) (t : FileTree) :
    cases base (findings t) = (found t).map (pathOf base) := by
  rw [found, List.map_filterMap, cases]
  congr 1
  funext finding
  cases finding <;> rfl

theorem ne_nil_of_mem_found (h : names ∈ found t) : names ≠ [] := by
  obtain ⟨finding, hfinding, hnames⟩ := List.mem_filterMap.mp h
  cases finding with
  | testCase more =>
    rw [← Option.some.inj hnames]
    exact TestSuite.names_ne_nil hfinding
  | ignored more => cases hnames

theorem names?_below (name : String) (finding : Finding) :
    (finding.below name).names? = finding.names?.map (name :: ·) := by
  cases finding <;> rfl

theorem inOrder_entryFindings (es : List (String × FileTree)) :
    inOrder (entryFindings es) = (inOrder es).map fun e => (e.1, findings e.2) := by
  have hentries : entryFindings es = es.map fun e => (e.1, findings e.2) := by
    induction es with
    | nil => rfl
    | cons e rest ih => rw [entryFindings, ih, List.map_cons]
  have hsorted : ((inOrder es).map fun e => (e.1, findings e.2)) =
      inOrder (es.map fun e => (e.1, findings e.2)) := List.map_mergeSort fun _ _ _ _ => rfl
  rw [hentries, hsorted]

theorem found_directory (hheeded : ignoreName ∉ es.map (·.1)) :
    found (.directory es) =
      (inOrder (es.filter fun e => !e.2.isDirectory && isCaseName e.1)).map (fun e => [e.1]) ++
        (inOrder es).flatMap fun e => (found e.2).map (e.1 :: ·) := by
  have hany : ¬(es.any fun e => e.1 == ignoreName) = true := by
    intro hany
    obtain ⟨e, he, hname⟩ := List.any_eq_true.mp hany
    exact hheeded (List.mem_map.mpr ⟨e, he, eq_of_beq hname⟩)
  rw [found, findings, if_neg hany, List.filterMap_append, ownCases, inOrder_entryFindings,
    List.flatMap_map, List.filterMap_flatMap, List.filterMap_map]
  congr 1
  · exact List.filterMap_eq_map ▸ rfl
  · congr 1
    funext e
    rw [List.filterMap_map, found, List.map_filterMap]
    congr 1
    funext finding
    exact names?_below e.1 finding

theorem found_left_out (hignore : ignoreName ∈ es.map (·.1)) : found (.directory es) = [] := by
  obtain ⟨e, he, hname⟩ := List.mem_map.mp hignore
  have hany : (es.any fun e => e.1 == ignoreName) = true :=
    List.any_eq_true.mpr ⟨e, he, beq_iff_eq.mpr hname⟩
  rw [found, findings, if_pos hany]
  rfl

/-! ## Every test case is found -/

theorem mem_inOrder {α : Type} {e : String × α} {entries : List (String × α)} :
    e ∈ inOrder entries ↔ e ∈ entries := List.mem_mergeSort

theorem mem_found_directory (hheeded : ignoreName ∉ es.map (·.1)) :
    names ∈ found (.directory es) ↔
      (∃ name content, names = [name] ∧ (name, .file content) ∈ es ∧ isCaseName name = true) ∨
        ∃ name below rest, names = name :: rest ∧ (name, below) ∈ es ∧ rest ∈ found below := by
  rw [found_directory hheeded, List.mem_append]
  refine or_congr ?_ ?_
  · rw [List.mem_map]
    constructor
    · rintro ⟨⟨name, below⟩, he, rfl⟩
      rw [mem_inOrder, List.mem_filter, Bool.and_eq_true, Bool.not_eq_true'] at he
      obtain ⟨he, hfile, hname⟩ := he
      cases below with
      | file content => exact ⟨name, content, rfl, he, hname⟩
      | directory es' => cases hfile
    · rintro ⟨name, content, rfl, he, hname⟩
      refine ⟨(name, .file content), ?_, rfl⟩
      rw [mem_inOrder, List.mem_filter, Bool.and_eq_true]
      exact ⟨he, rfl, hname⟩
  · rw [List.mem_flatMap]
    constructor
    · rintro ⟨⟨name, below⟩, he, hnames⟩
      obtain ⟨rest, hrest, rfl⟩ := List.mem_map.mp hnames
      exact ⟨name, below, rest, rfl, mem_inOrder.mp he, hrest⟩
    · rintro ⟨name, below, rest, rfl, he, hrest⟩
      exact ⟨(name, below), mem_inOrder.mpr he, List.mem_map_of_mem hrest⟩

theorem Reaches.ne_nil (h : Reaches t names) : names ≠ [] := by
  obtain ⟨name, hname, -⟩ := h.named
  rintro rfl
  cases hname

/-- The directory at the top must not ask to be left out, whatever the names. -/
theorem Reaches.heeded_here (h : Reaches (.directory es) names) :
    ignoreName ∉ es.map (·.1) := by
  have hnone := h.heeded [] List.nil_prefix
  rw [List.nil_append, FileTree.at?_singleton] at hnone
  exact Json.field?_eq_none_iff.mp hnone

theorem reaches_singleton_iff (hheeded : ignoreName ∉ es.map (·.1)) :
    Reaches (.directory es) [name] ↔
      (∃ content, (FileTree.directory es).child? name = some (.file content)) ∧
        isCaseName name = true := by
  have hnone : (FileTree.directory es).child? ignoreName = none :=
    Json.field?_eq_none_iff.mpr hheeded
  constructor
  · rintro ⟨hfile, ⟨last, hlast, hcase⟩, -⟩
    cases hlast
    rw [FileTree.at?_singleton] at hfile
    exact ⟨hfile, hcase⟩
  · rintro ⟨hfile, hcase⟩
    refine ⟨by rwa [FileTree.at?_singleton], ⟨name, rfl, hcase⟩, fun dirs hdirs => ?_⟩
    rw [List.prefix_nil.mp hdirs, List.nil_append, FileTree.at?_singleton, hnone]

theorem reaches_cons_iff (hheeded : ignoreName ∉ es.map (·.1)) (hne : names ≠ []) :
    Reaches (.directory es) (name :: names) ↔
      ∃ below, (FileTree.directory es).child? name = some below ∧ Reaches below names := by
  have hnone : (FileTree.directory es).child? ignoreName = none :=
    Json.field?_eq_none_iff.mpr hheeded
  have hlast : (name :: names).getLast? = names.getLast? := by
    rw [List.getLast?_cons_of_ne_nil hne]
  have hinit : (name :: names).dropLast = name :: names.dropLast := List.dropLast_cons_of_ne_nil hne
  constructor
  · rintro ⟨⟨content, hat⟩, hnamed, hbelow⟩
    rw [FileTree.at?] at hat
    obtain ⟨below, hchild, hfile⟩ := Option.bind_eq_some_iff.mp hat
    refine ⟨below, hchild, ⟨content, hfile⟩, hlast ▸ hnamed, fun dirs hdirs => ?_⟩
    have hdeep := hbelow (name :: dirs) (hinit ▸ List.cons_prefix_cons.mpr ⟨rfl, hdirs⟩)
    rwa [List.cons_append, FileTree.at?, hchild] at hdeep
  · rintro ⟨below, hchild, ⟨content, hfile⟩, hnamed, hbelow⟩
    refine ⟨⟨content, ?_⟩, hlast ▸ hnamed, fun dirs hdirs => ?_⟩
    · rw [FileTree.at?, hchild]
      exact hfile
    · cases dirs with
      | nil => rw [List.nil_append, FileTree.at?_singleton, hnone]
      | cons dir dirs =>
        rw [hinit] at hdirs
        obtain ⟨rfl, hrest⟩ := List.cons_prefix_cons.mp hdirs
        rw [List.cons_append, FileTree.at?, hchild]
        exact hbelow dirs hrest

/-- What is found is what the names say, and nothing else. -/
theorem mem_found_iff (ht : t.Distinct) : names ∈ found t ↔ Reaches t names := by
  induction ht generalizing names with
  | file content =>
    rw [found, findings_file]
    refine iff_of_false List.not_mem_nil fun h => ?_
    obtain ⟨name, rest, rfl⟩ := List.exists_cons_of_ne_nil h.ne_nil
    obtain ⟨content', hat⟩ := h.file
    cases hat
  | @directory es hnames hbelow ih =>
  by_cases hheeded : ignoreName ∈ es.map (·.1)
  · rw [found_left_out hheeded]
    exact iff_of_false List.not_mem_nil fun h => h.heeded_here hheeded
  rw [mem_found_directory hheeded]
  constructor
  · rintro (⟨name, content, rfl, he, hcase⟩ | ⟨name, below, rest, rfl, he, hrest⟩)
    · exact (reaches_singleton_iff hheeded).mpr
        ⟨⟨content, (FileTree.child?_directory_iff hnames).mpr he⟩, hcase⟩
    · exact (reaches_cons_iff hheeded (ne_nil_of_mem_found hrest)).mpr
        ⟨below, (FileTree.child?_directory_iff hnames).mpr he, (ih _ he).mp hrest⟩
  · intro h
    obtain ⟨name, rest, rfl⟩ := List.exists_cons_of_ne_nil h.ne_nil
    by_cases hrest : rest = []
    · subst hrest
      obtain ⟨⟨content, hchild⟩, hcase⟩ := (reaches_singleton_iff hheeded).mp h
      exact .inl ⟨name, content, rfl, FileTree.child?_mem hchild, hcase⟩
    · obtain ⟨below, hchild, hreaches⟩ := (reaches_cons_iff hheeded hrest).mp h
      have he : (name, below) ∈ es := FileTree.child?_mem hchild
      exact .inr ⟨name, below, rest, rfl, he, (ih _ he).mpr hreaches⟩

/-! ## The order of what is found -/

theorem inOrder_pairwise {α : Type} {entries : List (String × α)}
    (h : (entries.map (·.1)).Nodup) : (inOrder entries).Pairwise fun a b => a.1 < b.1 := by
  have hle : (inOrder entries).Pairwise fun a b => decide (a.1 ≤ b.1) = true :=
    List.pairwise_mergeSort (fun a b c hab hbc => by
        simp only [decide_eq_true_eq] at *
        exact String.le_trans hab hbc)
      (fun a b => by simpa using String.le_total a.1 b.1) entries
  have hne : (inOrder entries).Pairwise fun a b => a.1 ≠ b.1 := by
    have hperm : ((inOrder entries).map (·.1)).Perm (entries.map (·.1)) :=
      (List.mergeSort_perm entries _).map _
    exact List.pairwise_map.mp (hperm.nodup_iff.mpr h)
  refine hle.imp₂ (fun a b hab hne => ?_) hne
  exact Std.lt_of_le_of_ne (of_decide_eq_true hab) hne

theorem found_pairwise (ht : t.Distinct) : (found t).Pairwise Before := by
  induction ht with
  | file content =>
    rw [found, findings_file]
    exact .nil
  | @directory es hnames hbelow ih =>
  by_cases hheeded : ignoreName ∈ es.map (·.1)
  · rw [found_left_out hheeded]
    exact .nil
  have hown : ((es.filter fun e => !e.2.isDirectory && isCaseName e.1).map (·.1)).Nodup :=
    hnames.sublist (List.filter_sublist.map _)
  rw [found_directory hheeded, List.pairwise_append, List.pairwise_flatMap]
  refine ⟨List.pairwise_map.mpr (inOrder_pairwise hown), ⟨fun e he => ?_, ?_⟩, ?_⟩
  · refine List.pairwise_map.mpr ((ih e (mem_inOrder.mp he)).imp_of_mem fun hx hy hbefore => ?_)
    rw [before_cons_iff (ne_nil_of_mem_found hx) (ne_nil_of_mem_found hy)]
    exact .inr ⟨rfl, hbefore⟩
  · refine (inOrder_pairwise hnames).imp fun hlt x hx y hy => ?_
    obtain ⟨xs, hxs, rfl⟩ := List.mem_map.mp hx
    obtain ⟨ys, hys, rfl⟩ := List.mem_map.mp hy
    rw [before_cons_iff (ne_nil_of_mem_found hxs) (ne_nil_of_mem_found hys)]
    exact .inl hlt
  · intro x hx y hy
    obtain ⟨e, -, rfl⟩ := List.mem_map.mp hx
    obtain ⟨e', -, hy⟩ := List.mem_flatMap.mp hy
    obtain ⟨ys, hys, rfl⟩ := List.mem_map.mp hy
    obtain ⟨y', ys, rfl⟩ := List.exists_cons_of_ne_nil (ne_nil_of_mem_found hys)
    exact trivial

theorem found_nodup (ht : t.Distinct) : (found t).Nodup :=
  (found_pairwise ht).imp fun {xs ys} hbefore hsame => by
    subst hsame
    exact before_asymm hbefore hbefore

theorem Reaches.relisted (h : t.Relisted t') : Reaches t names ↔ Reaches t' names := by
  constructor
  · rintro ⟨⟨content, hfile⟩, hnamed, hheeded⟩
    exact ⟨⟨content, h.at?_eq_file_iff.mp hfile⟩, hnamed,
      fun dirs hdirs => h.at?_eq_none_iff.mp (hheeded dirs hdirs)⟩
  · rintro ⟨⟨content, hfile⟩, hnamed, hheeded⟩
    exact ⟨⟨content, h.at?_eq_file_iff.mpr hfile⟩, hnamed,
      fun dirs hdirs => h.at?_eq_none_iff.mpr (hheeded dirs hdirs)⟩

theorem found_relisted (h : t.Relisted t') (ht : t.Distinct) : found t' = found t := by
  have ht' : t'.Distinct := h.distinct ht
  have hperm : (found t').Perm (found t) :=
    (List.perm_ext_iff_of_nodup (found_nodup ht') (found_nodup ht)).mpr fun names => by
      rw [mem_found_iff ht', mem_found_iff ht, Reaches.relisted h]
  exact hperm.eq_of_pairwise (fun _ _ _ _ hab hba => absurd hba (before_asymm hab))
    (found_pairwise ht') (found_pairwise ht)

/-! ## A search -/

theorem search_eq {base : Path} {b : Bench ω} {above : List String}
    (hfind : b.files.find base = .ok (above, t)) :
    ((search base).runFrom b).1 = .ok ((found t).map (pathOf base)) := by
  have hfound : findingsAt b.files base = .ok (findings t) := by rw [findingsAt, hfind]
  obtain ⟨b', hsearch, -⟩ := TestSuite.runFrom_search hfound
  rw [hsearch, cases_findings]

theorem pathOf_injective (base : Path) : Function.Injective (pathOf base) := by
  intro names names' h
  exact List.append_cancel_left (congrArg Path.parts h)

/-- A search comes to every test case below a directory that is not left out, to each once and to
nothing else, in an order that does not depend on how directories list their entries. -/
theorem search_finds {base : Path} {b : Bench ω} {above : List String}
    (hfind : b.files.find base = .ok (above, t)) (ht : t.Distinct) :
    ∃ places : List (List String),
      ((search base).runFrom b).1 = .ok (places.map (pathOf base)) ∧
        (∀ names, names ∈ places ↔ Reaches t names) ∧
          (places.map (pathOf base)).Nodup ∧ places.Pairwise Before ∧
            ∀ (b' : Bench ω) (above' : List String) (t' : FileTree),
              b'.files.find base = .ok (above', t') → t.Relisted t' →
                ((search base).runFrom b').1 = ((search base).runFrom b).1 := by
  refine ⟨found t, search_eq hfind, fun names => mem_found_iff ht,
    (found_nodup ht).map (pathOf_injective base), found_pairwise ht,
    fun b' above' t' hfind' hrelisted => ?_⟩
  rw [search_eq hfind', search_eq hfind, found_relisted hrelisted ht]

/-! ## A directory that is listed in two ways -/

def draft : FileTree := .file (.bytes "".toUTF8)

def shelf : List (String × FileTree) :=
  [("tail-oats.yml", draft), ("java", .directory [("oats.yaml", draft)]),
    ("old", .directory [("oats.yaml", draft), (ignoreName, draft)])]

def shelfBench (entries : List (String × FileTree)) : Bench Unit :=
  { world := (), files := { tree := .directory entries } }

theorem shelf_distinct : (FileTree.directory shelf).Distinct := by
  refine .directory (by decide) ?_
  simp only [shelf, List.forall_mem_cons]
  refine ⟨.file _, .directory (by decide) ?_, .directory (by decide) ?_, ?_⟩
  all_goals simp [draft, FileTree.Distinct.file]

/-- Listed the other way round, the directory that asks to be left out still is. -/
theorem shelf_found : ∃ places : List (List String),
    ((search ⟨"/", []⟩).runFrom (shelfBench shelf.reverse)).1 =
        .ok (places.map (pathOf ⟨"/", []⟩)) ∧
      ["java", "oats.yaml"] ∈ places ∧ ["old", "oats.yaml"] ∉ places := by
  have hfind : (shelfBench shelf).files.find ⟨"/", []⟩ = .ok ([], .directory shelf) := rfl
  obtain ⟨places, hsearch, hmem, -, -, hrelisted⟩ := search_finds hfind shelf_distinct
  have hreversed : (FileTree.directory shelf).Relisted (.directory shelf.reverse) :=
    .of_perm shelf_distinct (List.reverse_perm shelf).symm
  refine ⟨places, ?_, (hmem _).mpr ⟨⟨_, rfl⟩, ⟨_, rfl, by decide +kernel⟩, ?_⟩, fun hold => ?_⟩
  · rw [hrelisted (shelfBench shelf.reverse) _ _ rfl hreversed, hsearch]
  · intro dirs hdirs
    cases dirs with
    | nil => rfl
    | cons dir dirs =>
      obtain ⟨rfl, hnil⟩ := List.cons_prefix_cons.mp hdirs
      rw [List.prefix_nil.mp hnil]
      rfl
  · have hignored := ((hmem _).mp hold).heeded ["old"] List.prefix_rfl
    cases hignored

end Discovery
end TelemetryCheck
