import TelemetryCheck.Proofs.Files.Parts
import TelemetryCheck.Proofs.Suite.Reading
import TelemetryCheck.Runner

/-!
# Names of test cases

The name of a test case joins the directories that lead to its file, the name of the file without
its ending, and its variant, with dashes between them.  The name of the directory for its output is
made of it.  Joining loses the ending of the file, and it loses which dashes were there before.
That is all that it loses: two test cases have one name exactly where the parts of their names agree
once they are taken apart at every dash.
-/

namespace TelemetryCheck
namespace TestSuite

variable {ω τ : Type} {limits : Limits τ} {root : Path} {cases : List (TestCase τ)}

/-- What the name of a test case is put together from. -/
def label (root : Path) (c : TestCase τ) : List String :=
  "run" :: directoriesTo root c.path ++ [c.path.stem] ++ c.matrixVariant.toList

def words (parts : List String) : List (List Char) :=
  parts.flatMap fun part => part.toList.splitOn '-'

theorem splitOn_intercalate_dash {parts : List String} (hne : parts ≠ []) :
    ("-".intercalate parts).toList.splitOn '-' = words parts := by
  induction parts with
  | nil => exact absurd rfl hne
  | cons part rest ih =>
    cases rest with
    | nil => simp [words]
    | cons next rest =>
      have htext : ("-".intercalate (part :: next :: rest)).toList =
          part.toList ++ '-' :: ("-".intercalate (next :: rest)).toList := by
        rw [String.intercalate_cons_cons, String.toList_append, String.toList_append,
          List.append_assoc]
        rfl
      rw [htext, List.splitOn_append_cons_self, ih (List.cons_ne_nil _ _)]
      rfl

/-- Joining parts with dashes loses which dashes were there before, and nothing else. -/
theorem intercalate_dash_eq_iff {parts parts' : List String} (hne : parts ≠ [])
    (hne' : parts' ≠ []) :
    "-".intercalate parts = "-".intercalate parts' ↔ words parts = words parts' := by
  rw [← splitOn_intercalate_dash hne, ← splitOn_intercalate_dash hne']
  constructor
  · intro h
    rw [h]
  · intro h
    -- joining the words at dashes again gives the names back
    have hjoined := congrArg (List.intercalate ['-']) h
    rw [List.intercalate_splitOn, List.intercalate_splitOn] at hjoined
    exact String.toList_inj.mp hjoined

/-- Parts without dashes can be told from their words. -/
theorem words_of_no_dash {parts : List String} (h : ∀ part ∈ parts, '-' ∉ part.toList) :
    words parts = parts.map String.toList := by
  induction parts with
  | nil => rfl
  | cons part rest ih =>
    have hrest := ih fun other hother => h other (List.mem_cons_of_mem part hother)
    rw [words, List.flatMap_cons, List.splitOn_eq_singleton (h part List.mem_cons_self)]
    exact congrArg (part.toList :: ·) hrest

theorem words_eq_iff_of_no_dash {parts parts' : List String}
    (h : ∀ part ∈ parts, '-' ∉ part.toList) (h' : ∀ part ∈ parts', '-' ∉ part.toList) :
    words parts = words parts' ↔ parts = parts' := by
  rw [words_of_no_dash h, words_of_no_dash h']
  exact List.map_inj_right fun _ _ => String.toList_inj.mp

/-! ## Test cases -/

theorem mem_casesOf {path : Path} {name : String} {d : Definition} {c : TestCase τ}
    (h : c ∈ casesOf limits path name d) :
    c.path = path ∧ c.name = c.matrixVariant.elim name (variantName name) := by
  unfold casesOf at h
  split at h
  · rw [List.mem_singleton.mp h]
    exact ⟨rfl, rfl⟩
  · obtain ⟨v, -, rfl⟩ := List.mem_map.mp h
    exact ⟨rfl, rfl⟩

theorem label_ne_nil (root : Path) (c : TestCase τ) : label root c ≠ [] := List.cons_ne_nil _ _

theorem variantName_intercalate {parts : List String} (hne : parts ≠ []) (variant : String) :
    variantName ("-".intercalate parts) variant = "-".intercalate (parts ++ [variant]) := by
  rw [String.intercalate_append_of_ne_nil hne (List.cons_ne_nil _ _), String.intercalate_singleton]
  rfl

/-- The name of a test case is its label with dashes between the parts. -/
theorem name_eq_label {path : Path} {d : Definition} {c : TestCase τ}
    (h : c ∈ casesOf limits path
      ("-".intercalate ("run" :: directoriesTo root path ++ [path.stem])) d) :
    c.name = "-".intercalate (label root c) := by
  obtain ⟨hpath, hname⟩ := mem_casesOf h
  rw [hname, label, hpath]
  cases c.matrixVariant with
  | none =>
    rw [Option.toList_none, List.append_nil]
    rfl
  | some v => exact variantName_intercalate (List.cons_ne_nil _ _) v

theorem nodup_map_congr {α β γ : Type} {f : α → β} {g : α → γ} {xs : List α}
    (h : ∀ a ∈ xs, ∀ b ∈ xs, f a = f b ↔ g a = g b) : (xs.map f).Nodup ↔ (xs.map g).Nodup := by
  rw [List.Nodup, List.Nodup, List.pairwise_map, List.pairwise_map]
  exact List.Pairwise.iff_of_mem fun ha hb => not_congr (h _ ha _ hb)

/-! ## Output directories -/

section Named

variable {c : TestCase τ} {parts : List String} (h : c.name = "-".intercalate ("run" :: parts))

include h

theorem head?_name : c.name.toList.head? = some 'r' := by
  rw [h]
  cases parts with
  | nil => rfl
  | cons part rest =>
    rw [String.intercalate_cons_cons, String.toList_append, String.toList_append]
    rfl

theorem outputDir_eq (r : Runner ω τ) :
    r.outputDir c =
      ⟨r.settings.outputRoot.root, r.settings.outputRoot.parts ++ (Path.ofText c.name).parts⟩ := by
  -- a name begins with a letter, so it is no absolute path that would replace the root of output
  have hroot : (Path.ofText c.name).root = "" := Path.root_of_head? (head?_name h) (by decide)
  show r.settings.outputRoot.append (Path.ofText c.name) = _
  rw [Path.append, Path.isAbsolute, hroot]
  rfl

end Named

/-- The names of all test cases that are read at once are the parts that lead to them, joined with
dashes.  Two of them have one name exactly where these parts agree once they are taken apart at
every dash, and one output directory exactly where their names are one path. -/
theorem names_agree_iff {text : String} {b : Bench ω}
    (h : ((read text limits).runFrom b).1 = .ok cases) :
    cases = [] ∨ ∃ root paths, Located b.files (.ofText text) root paths ∧
      (∀ c ∈ cases, c.path ∈ paths ∧ c.name = "-".intercalate (label root c)) ∧
      (∀ c ∈ cases, ∀ c' ∈ cases,
        (c.name = c'.name ↔ words (label root c) = words (label root c')) ∧
          ∀ r : Runner ω τ, r.outputDir c = r.outputDir c' ↔
            (Path.ofText c.name).parts = (Path.ofText c'.name).parts) ∧
      ((cases.map (·.name)).Nodup ↔ (cases.map fun c => words (label root c)).Nodup) ∧
      ((∀ c ∈ cases, ∀ part ∈ label root c, '-' ∉ part.toList) →
        ((cases.map (·.name)).Nodup ↔ (cases.map (label root)).Nodup)) := by
  rcases read_eq_ok h with hnil | ⟨root, paths, hlocated, hcases⟩
  · exact .inl hnil
  have hlabel : ∀ c ∈ cases, c.path ∈ paths ∧ c.name = "-".intercalate (label root c) := by
    intro c hc
    obtain ⟨path, hpath, d, -, hc⟩ := hcases c hc
    exact ⟨(mem_casesOf hc).1 ▸ hpath, name_eq_label hc⟩
  have hname : ∀ c ∈ cases, c.name = "-".intercalate (label root c) := fun c hc => (hlabel c hc).2
  have hwords : ∀ c ∈ cases, ∀ c' ∈ cases,
      c.name = c'.name ↔ words (label root c) = words (label root c') := by
    intro c hc c' hc'
    rw [hname c hc, hname c' hc']
    exact intercalate_dash_eq_iff (label_ne_nil root c) (label_ne_nil root c')
  refine .inr ⟨root, paths, hlocated, hlabel,
    fun c hc c' hc' => ⟨hwords c hc c' hc', fun r => ?_⟩,
    nodup_map_congr hwords, fun hdash => nodup_map_congr fun c hc c' hc' => ?_⟩
  · rw [outputDir_eq (hname c hc) r, outputDir_eq (hname c' hc') r, Path.mk.injEq,
      List.append_cancel_left_eq]
    exact and_iff_right rfl
  · rw [hwords c hc c' hc']
    exact words_eq_iff_of_no_dash (hdash c hc) (hdash c' hc')

/-! ## Two files that differ in their endings -/

def twins : Files :=
  { tree := .directory
      [("oats.yaml", .file (.bytes "".toUTF8)), ("oats.yml", .file (.bytes "".toUTF8))] }

def twinBench : Bench Unit := { world := (), files := twins }

def twinLimits : Limits Nat := ⟨30, 10, false⟩

theorem findings_twins :
    Discovery.findings twins.tree = [.testCase ["oats.yaml"], .testCase ["oats.yml"]] := by
  have hyaml : Discovery.isCaseName "oats.yaml" = true := by decide +kernel
  have hyml : Discovery.isCaseName "oats.yml" = true := by decide +kernel
  have horder : ∀ {α : Type} (x y : α), Discovery.inOrder [("oats.yaml", x), ("oats.yml", y)] =
      [("oats.yaml", x), ("oats.yml", y)] :=
    fun x y => List.mergeSort_of_pairwise (by simp)
  simp [twins, Discovery.findings, Discovery.entryFindings, Discovery.ownCases, horder,
    FileTree.isDirectory, hyaml, hyml, Discovery.ignoreName]

theorem located_twins :
    Located twins (.ofText ".") ⟨"/", []⟩ [⟨"/", ["oats.yaml"]⟩, ⟨"/", ["oats.yml"]⟩] := by
  have hfound : Discovery.findingsAt twins ⟨"/", []⟩ =
      .ok [.testCase ["oats.yaml"], .testCase ["oats.yml"]] := congrArg Except.ok findings_twins
  exact .directory (p := ⟨"/", []⟩) rfl rfl rfl hfound

theorem read_twins : ∃ cases, ((read "." twinLimits).runFrom twinBench).1 = .ok cases ∧
    cases.map (fun c => (c.path, c.name)) =
      [(⟨"/", ["oats.yaml"]⟩, "run-oats"), (⟨"/", ["oats.yml"]⟩, "run-oats")] := by
  have hcases :
      (casesIn twins twinLimits ⟨"/", []⟩
          [⟨"/", ["oats.yaml"]⟩, ⟨"/", ["oats.yml"]⟩]).toOption.map
        (List.map fun c => (c.path, c.name)) =
      some [(⟨"/", ["oats.yaml"]⟩, "run-oats"), (⟨"/", ["oats.yml"]⟩, "run-oats")] := by
    decide +kernel
  rw [read_of_located (by decide) located_twins]
  show ∃ cases, casesIn twins _ _ _ = .ok cases ∧ _
  cases hread : casesIn twins twinLimits ⟨"/", []⟩
      [⟨"/", ["oats.yaml"]⟩, ⟨"/", ["oats.yml"]⟩] with
  | error f =>
    rw [hread] at hcases
    cases hcases
  | ok cases =>
    rw [hread] at hcases
    exact ⟨cases, rfl, Option.some.inj hcases⟩

theorem twins_words : ∃ cases, ((read "." twinLimits).runFrom twinBench).1 = .ok cases ∧
    ∃ root, ¬(cases.map fun c => words (label root c)).Nodup := by
  obtain ⟨cases, hread, htwins⟩ := read_twins
  refine ⟨cases, hread, ?_⟩
  have hnames : cases.map (·.name) = ["run-oats", "run-oats"] := by
    have := congrArg (List.map Prod.snd) htwins
    rwa [List.map_map] at this
  rcases names_agree_iff hread with rfl | ⟨root, -, -, -, -, hwords, -⟩
  · cases hnames
  · refine ⟨root, ?_⟩
    rw [← hwords, hnames]
    decide

/-- Test cases of different files that are read at once may share a name, and with it the directory
for their output. -/
theorem twins_share_output : ∃ cases, ((read "." twinLimits).runFrom twinBench).1 = .ok cases ∧
    ∃ c ∈ cases, ∃ c' ∈ cases, c.path ≠ c'.path ∧ c.name = c'.name ∧
      ∀ r : Runner Unit Nat, r.outputDir c = r.outputDir c' := by
  obtain ⟨cases, hread, htwins⟩ := read_twins
  obtain ⟨c, rest, rfl, hc, hrest⟩ := List.map_eq_cons_iff.mp htwins
  obtain ⟨c', more, rfl, hc', -⟩ := List.map_eq_cons_iff.mp hrest
  obtain ⟨hpath, hname⟩ := Prod.mk.inj hc
  obtain ⟨hpath', hname'⟩ := Prod.mk.inj hc'
  have hname : c.name = c'.name := hname.trans hname'.symm
  refine ⟨_, hread, c, List.mem_cons_self, c', List.mem_cons_of_mem _ List.mem_cons_self, ?_, hname,
    fun r => ?_⟩
  · rw [hpath, hpath']
    decide
  · rw [Runner.outputDir, Runner.outputDir, hname]

end TestSuite
end TelemetryCheck
