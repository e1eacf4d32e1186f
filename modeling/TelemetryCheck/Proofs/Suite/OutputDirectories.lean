import TelemetryCheck.Proofs.Files.Parts
import TelemetryCheck.Proofs.Files.Untouched
import TelemetryCheck.Proofs.Running.Course
import TelemetryCheck.Proofs.Suite.Discovery
import TelemetryCheck.Proofs.Suite.Names

/-!
# Output directories

The output directory of a test case is deleted before it is made.  Its path is the output root with
the name of the test case behind it, read as a path.  Names of files and directories have no
slashes, but the name of a variant is any text: with a slash in it, the directory is not one directly
below the output root or the log file is not directly in it.  Without one they are, and nothing
outside the directory is lost.
-/

namespace TelemetryCheck

namespace Runner

variable {ω τ : Type} {r : Runner ω τ} {c : TestCase τ}

/-! ## Directories and log files -/

/-- The output directory is one name below the output root, and the log file one name below the
output directory. -/
structure Contained (r : Runner ω τ) (c : TestCase τ) : Prop where
  directory : ∃ name, name ≠ ".." ∧
    r.outputDir c = ⟨r.settings.outputRoot.root, r.settings.outputRoot.parts ++ [name]⟩
  log : ∃ file, file ≠ ".." ∧
    r.logPath c = ⟨(r.outputDir c).root, (r.outputDir c).parts ++ [file]⟩

def logName (c : TestCase τ) : String := "output-" ++ c.name ++ ".log"

theorem toList_logName (c : TestCase τ) :
    (logName c).toList = "output-".toList ++ (c.name.toList ++ ".log".toList) := by
  rw [logName, String.toList_append, String.toList_append, List.append_assoc]

theorem head?_logName (c : TestCase τ) : (logName c).toList.head? = some 'o' := by
  rw [toList_logName]
  rfl

theorem logPath_eq (r : Runner ω τ) (c : TestCase τ) :
    r.logPath c = ⟨(r.outputDir c).root, (r.outputDir c).parts ++ (Path.ofText (logName c)).parts⟩ := by
  have hroot : (Path.ofText (logName c)).root = "" :=
    Path.root_of_head? (head?_logName c) (by decide)
  show (r.outputDir c).append (Path.ofText (logName c)) = _
  rw [Path.append, Path.isAbsolute, hroot]
  rfl

/-- A slash makes more than one part of the name of a log file. -/
theorem two_le_length_logName (h : '/' ∈ c.name.toList) :
    2 ≤ (Path.ofText (logName c)).parts.length := by
  obtain ⟨before, after, hname⟩ := List.append_of_mem h
  have hsplit : logName c =
      ("output-" ++ String.ofList before) ++ "/" ++ (String.ofList after ++ ".log") := by
    rw [← String.toList_inj, toList_logName, hname]
    simp
  -- what the log file has around the name keeps both sides of the slash from vanishing
  have hfront : (Path.ofText ("output-" ++ String.ofList before)).parts ≠ [] :=
    Path.parts_ne_nil (c := 'o') (by simp) (by decide) (by decide)
  have hback : (Path.ofText (String.ofList after ++ ".log")).parts ≠ [] :=
    Path.parts_ne_nil (c := 'l') (by simp) (by decide) (by decide)
  rw [Path.parts_append hsplit, List.length_append]
  exact Nat.add_le_add (List.length_pos_iff.mpr hfront) (List.length_pos_iff.mpr hback)

theorem parts_logName (h : '/' ∉ c.name.toList) :
    (Path.ofText (logName c)).parts = [logName c] := by
  have hhead := head?_logName c
  refine Path.parts_of_no_slash ?_ (Text.ne_of_head? hhead (by decide))
    (Text.ne_of_head? hhead (by decide))
  rw [toList_logName]
  simpa using h

section Named

variable {parts : List String} (hname : c.name = "-".intercalate ("run" :: parts))

include hname

theorem outputDir_of_no_slash (r : Runner ω τ) (h : '/' ∉ c.name.toList) :
    r.outputDir c = ⟨r.settings.outputRoot.root, r.settings.outputRoot.parts ++ [c.name]⟩ := by
  have hhead := TestSuite.head?_name hname
  rw [TestSuite.outputDir_eq hname r, Path.parts_of_no_slash h
    (Text.ne_of_head? hhead (by decide)) (Text.ne_of_head? hhead (by decide))]

theorem logPath_of_no_slash (r : Runner ω τ) (h : '/' ∉ c.name.toList) :
    r.logPath c =
      ⟨r.settings.outputRoot.root, r.settings.outputRoot.parts ++ [c.name, logName c]⟩ := by
  rw [logPath_eq, outputDir_of_no_slash hname r h, parts_logName h, List.append_assoc]
  rfl

theorem contained_iff (r : Runner ω τ) : Contained r c ↔ '/' ∉ c.name.toList := by
  constructor
  · rintro ⟨-, file, -, hlog⟩ hslash
    rw [logPath_eq, Path.mk.injEq, List.append_cancel_left_eq] at hlog
    have hlength := two_le_length_logName hslash
    rw [hlog.2] at hlength
    exact absurd hlength (Nat.not_succ_le_self 1)
  · intro h
    have hdirectory := outputDir_of_no_slash hname r h
    refine ⟨⟨c.name, Text.ne_of_head? (TestSuite.head?_name hname) (by decide), hdirectory⟩,
      logName c, Text.ne_of_head? (head?_logName c) (by decide), ?_⟩
    rw [logPath_eq, parts_logName h]

end Named

/-! ## Making the output directory anew -/

/-- What becomes of the files when something is asked of them first. -/
theorem files_ask_bind {α : Type} (question : Files → Except Fault α)
    (next : α → Action (Running ω τ) Unit) (b : Running ω τ) :
    ((Bench.ask question >>= next).runFrom b).2.files =
      match question b.files with
      | .ok a => ((next a).runFrom b).2.files
      | .error _ => b.files := by
  rw [Action.runFrom_bind, Bench.runFrom_ask]
  cases question b.files <;> rfl

/-- What becomes of the files when they are changed first. -/
theorem files_change_bind (act : Files → Except Fault Files)
    (next : Unit → Action (Running ω τ) Unit) (b : Running ω τ) :
    ((Bench.change act >>= next).runFrom b).2.files =
      match act b.files with
      | .ok files => ((next ()).runFrom { b with files := files }).2.files
      | .error _ => b.files := by
  rw [Action.runFrom_bind, Bench.change, Action.runFrom_bind, Bench.runFrom_ask]
  cases act b.files <;> rfl

/-- The output directory is made anew, and nothing else becomes of the files. -/
theorem files_prepareOutput (r : Runner ω τ) (b : Running ω τ) :
    (r.prepareOutput.runFrom b).2.files = b.files.remade (r.outputDir b.world.testCase) := by
  unfold prepareOutput Files.remade
  rw [runFrom_testCase_bind, files_ask_bind]
  cases b.files.isDirectory (r.outputDir b.world.testCase) with
  | error f => rfl
  | ok there =>
  cases there with
  | false =>
    simp only [Bool.false_eq_true, if_false]
    rw [files_change_bind, Files.made]
    cases b.files.makeDirectories (r.outputDir b.world.testCase) <;> rfl
  | true =>
  simp only [if_true]
  rw [files_change_bind]
  cases b.files.removeTree (r.outputDir b.world.testCase) with
  | error f => rfl
  | ok files =>
    simp only
    rw [files_change_bind, Files.made]
    cases files.makeDirectories (r.outputDir b.world.testCase) <;> rfl

/-- Making the output directory anew loses nothing but what is in it. -/
theorem prepareOutput_keeps {name : String} (hname : name ≠ "..") {b : Running ω τ}
    (hdirectory : r.outputDir b.world.testCase =
      ⟨r.settings.outputRoot.root, r.settings.outputRoot.parts ++ [name]⟩)
    (place : List String) :
    FileTree.KeptAt b.files.tree (r.prepareOutput.runFrom b).2.files.tree place ∨
      ∃ root, b.files.LeadsTo r.settings.outputRoot root ∧ root ++ [name] <+: place := by
  rw [files_prepareOutput, hdirectory]
  rcases Files.keptAt_remade with hkept | ⟨names, hleads, hplace⟩
  · exact .inl hkept
  · obtain ⟨root, hroot, rfl⟩ := hleads.of_child hname
    exact .inr ⟨root, hroot, hplace⟩

end Runner

/-! ## Names of files -/

namespace FileTree

variable {t below : FileTree} {name : String} {names : List String}

def SlashFree (t : FileTree) : Prop :=
  ∀ names ∈ t.namesBelow, ∀ name ∈ names, '/' ∉ name.toList

instance (t : FileTree) : Decidable t.SlashFree :=
  inferInstanceAs (Decidable (∀ names ∈ t.namesBelow, ∀ name ∈ names, '/' ∉ name.toList))

theorem SlashFree.child? (h : t.SlashFree) (hchild : t.child? name = some below) :
    below.SlashFree := by
  intro names hnames part hpart
  cases t with
  | file content => cases hchild
  | directory es =>
    refine h (name :: names) ?_ part (List.mem_cons_of_mem _ hpart)
    rw [namesBelow]
    exact (mem_entryNames (child?_mem hchild)).2 names hnames

theorem SlashFree.at? (h : t.SlashFree) (hat : t.at? names = some below) : below.SlashFree := by
  induction names generalizing t with
  | nil =>
    cases hat
    exact h
  | cons name rest ih =>
    rw [FileTree.at?] at hat
    obtain ⟨child, hchild, hrest⟩ := Option.bind_eq_some_iff.mp hat
    exact ih (h.child? hchild) hrest

theorem SlashFree.forall_of_at? (h : t.SlashFree) (hat : t.at? names = some below) :
    ∀ name ∈ names, '/' ∉ name.toList := by
  by_cases hnil : names = []
  · rw [hnil]
    exact fun name hname => absurd hname List.not_mem_nil
  · exact h names (mem_namesBelow_of_at? hnil hat)

/-- The names that lead to a test case are among the names below the tree. -/
theorem mem_namesBelow_of_mem_found (h : names ∈ Discovery.found t) : names ∈ t.namesBelow := by
  induction names generalizing t with
  | nil => exact absurd rfl (Discovery.ne_nil_of_mem_found h)
  | cons name rest ih =>
    cases t with
    | file content =>
      rw [Discovery.found, Discovery.findings_file] at h
      cases h
    | directory es =>
      by_cases hignore : Discovery.ignoreName ∈ es.map (·.1)
      · rw [Discovery.found_left_out hignore] at h
        cases h
      · rw [namesBelow]
        rcases (Discovery.mem_found_directory hignore).mp h with
          ⟨_, content, hnames, he, -⟩ | ⟨_, below, _, hnames, he, hbelow⟩
        · cases hnames
          exact (mem_entryNames he).1
        · cases hnames
          exact (mem_entryNames he).2 rest (ih hbelow)

end FileTree

namespace TestSuite

variable {ω τ : Type} {limits : Limits τ} {files : Files} {base root path : Path}
  {paths : List Path} {cases : List (TestCase τ)} {c : TestCase τ}

theorem no_slash_of_located (hfiles : files.tree.SlashFree) (h : Located files base root paths)
    (hpath : path ∈ paths) : ∀ part ∈ path.parts, '/' ∉ part.toList := by
  have hplaces : ∀ place ∈ files.places, ∀ part ∈ place, '/' ∉ part.toList :=
    List.forall_mem_cons.mpr ⟨fun _ hpart => absurd hpart List.not_mem_nil, hfiles⟩
  cases h with
  | file hlocate hfile =>
    rw [List.mem_singleton.mp hpath]
    exact hplaces _ (Files.parts_mem_places (Files.resolved_of_locate hlocate) hfile)
  | @directory p found hlocate _ _ hfound =>
    unfold Discovery.findingsAt at hfound
    split at hfound
    · rename_i above t hfind
      cases hfound
      rw [Discovery.cases_findings] at hpath
      obtain ⟨names, hnames, rfl⟩ := List.mem_map.mp hpath
      have hat := Files.at?_of_find (Files.resolved_of_locate hlocate) hfind
      exact List.forall_mem_append.mpr ⟨hfiles.forall_of_at? hat,
        hfiles.at? hat names (FileTree.mem_namesBelow_of_mem_found hnames)⟩
    · cases hfound
    · cases hfound
      cases hpath

theorem mem_intercalate_dash {x : Char} (hx : x ≠ '-') {parts : List String} :
    x ∈ ("-".intercalate parts).toList ↔ ∃ part ∈ parts, x ∈ part.toList := by
  induction parts with
  | nil => simp
  | cons part rest ih =>
    cases rest with
    | nil => simp
    | cons next rest =>
      have hdash : x ∉ "-".toList := fun h => hx (List.mem_singleton.mp h)
      rw [String.intercalate_cons_cons, String.toList_append, String.toList_append, List.mem_append,
        List.mem_append, or_iff_left hdash, ih]
      exact (List.exists_mem_cons_iff (fun part => x ∈ part.toList) part (next :: rest)).symm

/-- The name of a test case has a slash exactly where the name of its variant has one. -/
theorem no_slash_name_iff (hfiles : files.tree.SlashFree) (h : Located files base root paths)
    (hpath : c.path ∈ paths) (hname : c.name = "-".intercalate (label root c)) :
    '/' ∉ c.name.toList ↔ ∀ variant ∈ c.matrixVariant, '/' ∉ variant.toList := by
  have hparts := no_slash_of_located hfiles h hpath
  have hdirectories : ∀ part ∈ directoriesTo root c.path, '/' ∉ part.toList :=
    fun part hpart => hparts part (List.dropLast_subset _ (List.mem_of_mem_drop hpart))
  have hstem := Path.no_slash_stem hparts
  have hvariant : '/' ∈ c.name.toList ↔ ∃ variant ∈ c.matrixVariant, '/' ∈ variant.toList := by
    rw [hname, mem_intercalate_dash (by decide)]
    constructor
    · rintro ⟨part, hpart, hslash⟩
      rcases List.mem_append.mp hpart with hpart | hpart
      · rcases List.mem_append.mp hpart with hpart | hpart
        · rcases List.mem_cons.mp hpart with rfl | hpart
          · exact absurd hslash (by decide)
          · exact absurd hslash (hdirectories part hpart)
        · rw [List.mem_singleton.mp hpart] at hslash
          exact absurd hslash hstem
      · exact ⟨part, Option.mem_toList.mp hpart, hslash⟩
    · rintro ⟨variant, hvariant, hslash⟩
      exact ⟨variant, List.mem_append_right _ (Option.mem_toList.mpr hvariant), hslash⟩
  rw [hvariant]
  simp only [not_exists, not_and]

/-- The output directory of a test case is directly below the output root and its log file directly
in the directory exactly where the name of its variant has no slash.  Then nothing but the directory
with what is in it can be lost when it is made anew. -/
theorem output_contained_iff {text : String} {b : Bench ω} (hfiles : b.files.tree.SlashFree)
    (h : ((read text limits).runFrom b).1 = .ok cases) (hc : c ∈ cases) (r : Runner ω τ) :
    (r.Contained c ↔ ∀ variant ∈ c.matrixVariant, '/' ∉ variant.toList) ∧
      (r.Contained c →
        r.outputDir c = ⟨r.settings.outputRoot.root, r.settings.outputRoot.parts ++ [c.name]⟩ ∧
          r.logPath c = ⟨r.settings.outputRoot.root,
            r.settings.outputRoot.parts ++ [c.name, "output-" ++ c.name ++ ".log"]⟩ ∧
          ∀ (start : Running ω τ) (place : List String), start.world.testCase.name = c.name →
            FileTree.KeptAt start.files.tree (r.prepareOutput.runFrom start).2.files.tree place ∨
              ∃ root, start.files.LeadsTo r.settings.outputRoot root ∧
                root ++ [c.name] <+: place) := by
  rcases read_eq_ok h with rfl | ⟨root, paths, hlocated, hcases⟩
  · exact absurd hc List.not_mem_nil
  obtain ⟨path, hpath, d, -, hcase⟩ := hcases c hc
  have hname : c.name = "-".intercalate (label root c) := name_eq_label hcase
  have hpath : c.path ∈ paths := (mem_casesOf hcase).1 ▸ hpath
  have hslash := no_slash_name_iff hfiles hlocated hpath hname
  have hcontained := Runner.contained_iff hname r
  refine ⟨hcontained.trans hslash, fun hin => ?_⟩
  have hplain := hcontained.mp hin
  have hdirectory := Runner.outputDir_of_no_slash hname r hplain
  refine ⟨hdirectory, Runner.logPath_of_no_slash hname r hplain, fun start place hstart => ?_⟩
  have hstarted : r.outputDir start.world.testCase = r.outputDir c := by
    rw [Runner.outputDir, hstart, Runner.outputDir]
  exact Runner.prepareOutput_keeps (Text.ne_of_head? (head?_name hname) (by decide))
    (hstarted.trans hdirectory) place

/-! ## A file with one variant -/

/-- A definition with one variant, next to a directory of output and one with files of its own. -/
def stock (variant : String) : Files :=
  { tree := .directory
      [("build", .directory [("run-oats-", .empty)]),
        ("keep", .directory [("dc.yml", .file (.bytes "x".toUTF8))]),
        ("oats.yaml", .file (.bytes ("matrix: [name: " ++ variant ++ "]").toUTF8))] }

def stockBench (variant : String) : Bench Unit := { world := (), files := stock variant }

def stockNames (variant : String) : Except Failure (List (String × Option String)) :=
  (casesIn (stock variant) (⟨30, 10, false⟩ : Limits Nat) ⟨"/", []⟩ [⟨"/", ["oats.yaml"]⟩]).map
    (List.map fun c => (c.name, c.matrixVariant))

theorem read_stock {variant name : String}
    (h : (stockNames variant).toOption = some [(name, some variant)]) :
    ∃ c : TestCase Nat,
      ((read "oats.yaml" ⟨30, 10, false⟩).runFrom (stockBench variant)).1 = .ok [c] ∧
        c.name = name ∧ c.matrixVariant = some variant := by
  have hlocated : Located (stock variant) (.ofText "oats.yaml") ⟨"/", []⟩
      [⟨"/", ["oats.yaml"]⟩] := .file (p := ⟨"/", ["oats.yaml"]⟩) rfl rfl
  rw [read_of_located (by decide) hlocated]
  show ∃ c, casesIn (stock variant) _ _ _ = .ok [c] ∧ _
  unfold stockNames at h
  cases hcases : casesIn (stock variant) (⟨30, 10, false⟩ : Limits Nat) ⟨"/", []⟩
      [⟨"/", ["oats.yaml"]⟩] with
  | error f =>
    rw [hcases] at h
    cases h
  | ok cases =>
    rw [hcases] at h
    obtain ⟨c, rest, rfl, hc, hrest⟩ := List.map_eq_cons_iff.mp (Option.some.inj h)
    obtain rfl := List.map_eq_nil_iff.mp hrest
    exact ⟨c, rfl, Prod.mk.inj hc⟩

/-- A variant with a plain name. -/
theorem edge_contained : (stock "edge").tree.SlashFree ∧ ∃ c : TestCase Nat,
    ((read "oats.yaml" ⟨30, 10, false⟩).runFrom (stockBench "edge")).1 = .ok [c] ∧
      ∀ r : Runner Unit Nat, r.Contained c ∧ r.outputDir c =
        ⟨r.settings.outputRoot.root, r.settings.outputRoot.parts ++ ["run-oats-edge"]⟩ := by
  have hfiles : (stock "edge").tree.SlashFree := by decide +kernel
  have hnames : (stockNames "edge").toOption = some [("run-oats-edge", some "edge")] := by
    decide +kernel
  obtain ⟨c, hread, hname, hvariant⟩ := read_stock hnames
  refine ⟨hfiles, c, hread, fun r => ?_⟩
  obtain ⟨hcontained, hpaths⟩ :=
    output_contained_iff (b := stockBench "edge") hfiles hread List.mem_cons_self r
  have hplain : ∀ variant ∈ c.matrixVariant, '/' ∉ variant.toList := by
    rw [hvariant]
    rintro variant ⟨⟩
    decide
  obtain ⟨hdirectory, -⟩ := hpaths (hcontained.mpr hplain)
  exact ⟨hcontained.mpr hplain, hname ▸ hdirectory⟩

def keepPath : Path := ⟨"", ["build", "run-oats-", "..", "..", "keep"]⟩

/-- The name of a variant may lead out of the output root, to a directory that is then deleted. -/
theorem keep_deleted : (stock "/../../keep").tree.SlashFree ∧ ∃ c : TestCase Nat,
    ((read "oats.yaml" ⟨30, 10, false⟩).runFrom (stockBench "/../../keep")).1 = .ok [c] ∧
      ∀ r : Runner Unit Nat, r.settings.outputRoot = .ofText "build" → ¬r.Contained c ∧
        ∀ start : Running Unit Nat, start.files = stock "/../../keep" → start.world.testCase = c →
          (start.files.tree.at? ["keep", "dc.yml"]).isSome ∧
            (r.prepareOutput.runFrom start).2.files.tree.at? ["keep", "dc.yml"] = none := by
  have hnames : (stockNames "/../../keep").toOption =
      some [("run-oats-/../../keep", some "/../../keep")] := by decide +kernel
  obtain ⟨c, hread, hname, -⟩ := read_stock hnames
  refine ⟨by decide +kernel, c, hread, fun r hroot => ?_⟩
  have hdirectory : r.outputDir c = keepPath := by
    rw [Runner.outputDir, hroot, hname]
    decide +kernel
  constructor
  · rintro ⟨⟨name, -, hsingle⟩, -⟩
    rw [hdirectory, hroot] at hsingle
    have hlength : 5 = (Path.ofText "build").parts.length + 1 :=
      (congrArg (fun p : Path => p.parts.length) hsingle).trans List.length_append
    exact absurd hlength (by decide +kernel)
  · intro start hfiles hcase
    rw [Runner.files_prepareOutput, hfiles, hcase, hdirectory]
    have hremade : (((stock "/../../keep").remade keepPath).tree.at? ["keep", "dc.yml"]).isNone := by
      decide +kernel
    exact ⟨by decide +kernel, Option.isNone_iff_eq_none.mp hremade⟩

end TestSuite
end TelemetryCheck
