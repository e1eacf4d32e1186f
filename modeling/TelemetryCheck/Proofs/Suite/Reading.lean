import TelemetryCheck.Proofs.FirstFailure
import TelemetryCheck.TestSuite

/-!
# Reading test suites

How reading the test cases at a path can end.  Which files are read is settled by the tree of files
alone, every one of them has a name below the directory that names are reckoned from, and the first
one that cannot be loaded ends the reading.
-/

namespace TelemetryCheck
namespace TestSuite

variable {ω τ : Type} {files : Files} {limits : Limits τ} {base root path : Path}
  {paths : List Path} {cases : List (TestCase τ)} {f : Failure}

/-! ## Which files are read -/

/-- The files that are read for a path, and the directory that their names are reckoned from. -/
inductive Located (files : Files) (base : Path) : Path → List Path → Prop
  | file {p : Path} : files.locate base = .ok p → files.isFile p = .ok true →
      Located files base p.parent [p]
  | directory {p : Path} {found : List Discovery.Finding} : files.locate base = .ok p →
      files.isFile p = .ok false → files.isDirectory p = .ok true →
        Discovery.findingsAt files p = .ok found →
          Located files base p (Discovery.cases p found)

inductive Unlocatable (files : Files) (base : Path) : Fault → Prop
  | path {f : Fault} : files.locate base = .error f → Unlocatable files base f
  | kind {p : Path} {f : Fault} : files.locate base = .ok p →
      files.isFile p = .error f ∨ files.isDirectory p = .error f → Unlocatable files base f
  | entries {p : Path} {f : Fault} : files.locate base = .ok p →
      Discovery.findingsAt files p = .error f → Unlocatable files base f

def noteIgnored (path : Path) (_ : PUnit) : Action (Bench ω) (ForInStep PUnit) := do
  Bench.log .info "directory_ignored" [("path", .str path.toText)]
  return .yield ⟨⟩

/-- Telling of the directories that are left out leaves the files alone. -/
theorem runFrom_noteIgnored (ignored : List Path) (b : Bench ω) :
    ∃ b', (forIn ignored PUnit.unit noteIgnored).runFrom b = (.ok ⟨⟩, b') ∧
      b'.files = b.files := by
  induction ignored generalizing b with
  | nil => exact ⟨b, rfl, rfl⟩
  | cons path rest ih =>
    obtain ⟨b', hrest, hfiles⟩ := ih { b with journal := b.journal.log ⟨.info, "directory_ignored",
      [("path", .str path.toText)]⟩ }
    refine ⟨b', ?_, hfiles⟩
    rw [List.forIn_cons, Action.runFrom_bind]
    exact hrest

theorem runFrom_search {found : List Discovery.Finding} {p : Path} {b : Bench ω}
    (h : Discovery.findingsAt b.files p = .ok found) :
    ∃ b', (Discovery.search p).runFrom b = (.ok (Discovery.cases p found), b') ∧
      b'.files = b.files := by
  obtain ⟨b', hignored, hfiles⟩ := runFrom_noteIgnored (Discovery.ignored p found) b
  refine ⟨b', ?_, hfiles⟩
  rw [Discovery.search, Bench.runFrom_ask_bind h]
  show ((forIn (Discovery.ignored p found) PUnit.unit noteIgnored) >>= fun _ =>
    pure (Discovery.cases p found)).runFrom b = _
  rw [Action.runFrom_bind, hignored]
  rfl

theorem runFrom_filesAt {b : Bench ω} (h : Located b.files base root paths) :
    ∃ b', (filesAt base).runFrom b = (.ok (root, paths), b') ∧ b'.files = b.files := by
  unfold filesAt
  cases h with
  | file hlocate hfile =>
    rw [Bench.runFrom_ask_bind hlocate, Bench.runFrom_ask_bind hfile]
    exact ⟨b, rfl, rfl⟩
  | directory hlocate hfile hdirectory hfound =>
    obtain ⟨b', hsearch, hfiles⟩ := runFrom_search hfound
    refine ⟨b', ?_, hfiles⟩
    rw [Bench.runFrom_ask_bind hlocate, Bench.runFrom_ask_bind hfile, if_neg Bool.false_ne_true,
      Bench.runFrom_ask_bind hdirectory, if_pos rfl, Action.runFrom_bind, hsearch]
    rfl

/-- Which files are read, or that this is not known, is settled by the files alone. -/
theorem filesAt_cases (base : Path) (b : Bench ω) :
    (∃ root paths, Located b.files base root paths) ∨
      (∃ m, (filesAt base).runFrom b = (.error (.configuration m), b)) ∨
      ∃ f, (filesAt base).runFrom b = (.error (.fault f), b) ∧ Unlocatable b.files base f := by
  unfold filesAt
  cases hlocate : b.files.locate base with
  | error f =>
    rw [Bench.runFrom_ask_bind_error hlocate]
    exact .inr (.inr ⟨f, rfl, .path hlocate⟩)
  | ok p =>
  rw [Bench.runFrom_ask_bind hlocate]
  cases hfile : b.files.isFile p with
  | error f =>
    rw [Bench.runFrom_ask_bind_error hfile]
    exact .inr (.inr ⟨f, rfl, .kind hlocate (.inl hfile)⟩)
  | ok isFile =>
  rw [Bench.runFrom_ask_bind hfile]
  cases isFile with
  | true => exact .inl ⟨p.parent, [p], .file hlocate hfile⟩
  | false =>
  rw [if_neg Bool.false_ne_true]
  cases hdirectory : b.files.isDirectory p with
  | error f =>
    rw [Bench.runFrom_ask_bind_error hdirectory]
    exact .inr (.inr ⟨f, rfl, .kind hlocate (.inr hdirectory)⟩)
  | ok isDirectory =>
  rw [Bench.runFrom_ask_bind hdirectory]
  cases isDirectory with
  | false => exact .inr (.inl ⟨_, rfl⟩)
  | true =>
  cases hfound : Discovery.findingsAt b.files p with
  | error f =>
    refine .inr (.inr ⟨f, ?_, .entries hlocate hfound⟩)
    rw [if_pos rfl, Discovery.search, Action.runFrom_bind, Bench.runFrom_ask_bind_error hfound]
  | ok found => exact .inl ⟨p, _, .directory hlocate hfile hdirectory hfound⟩

theorem names_ne_nil {t : FileTree} {names : List String}
    (h : .testCase names ∈ Discovery.findings t) : names ≠ [] := by
  cases t with
  | file content =>
    rw [Discovery.findings_file] at h
    cases h
  | directory entries =>
    rw [Discovery.findings] at h
    split at h
    · simp at h
    rcases List.mem_append.mp h with hown | hbelow
    · obtain ⟨entry, -, hentry⟩ := List.mem_map.mp hown
      cases hentry
      exact List.cons_ne_nil _ _
    · obtain ⟨entry, -, hentry⟩ := List.mem_flatMap.mp hbelow
      obtain ⟨finding, -, hfinding⟩ := List.mem_map.mp hentry
      cases finding with
      | testCase more =>
        cases hfinding
        exact List.cons_ne_nil _ _
      | ignored more => cases hfinding

theorem exists_names_of_mem_cases {p : Path} {found : List Discovery.Finding}
    (hfound : Discovery.findingsAt files p = .ok found) (h : path ∈ Discovery.cases p found) :
    ∃ names, names ≠ [] ∧ path = ⟨p.root, p.parts ++ names⟩ := by
  obtain ⟨finding, hfinding, hpath⟩ := List.mem_filterMap.mp h
  cases finding with
  | ignored names => cases hpath
  | testCase names =>
    cases hpath
    refine ⟨names, ?_, rfl⟩
    unfold Discovery.findingsAt at hfound
    split at hfound
    · cases hfound
      exact names_ne_nil hfinding
    · cases hfound
    · cases hfound
      cases hfinding

/-- Every file that is read lies below the directory that names are reckoned from. -/
theorem below_of_located (h : Located files base root paths) (hpath : path ∈ paths) :
    ∃ dirs, path.parent = ⟨root.root, root.parts ++ dirs⟩ := by
  cases h with
  | file =>
    -- names of a single file are reckoned from the directory that it is in
    rw [List.mem_singleton.mp hpath]
    exact ⟨[], by rw [List.append_nil]⟩
  | directory _ _ _ hfound =>
    obtain ⟨names, hne, rfl⟩ := exists_names_of_mem_cases hfound hpath
    exact ⟨names.dropLast, by rw [Path.parent, List.dropLast_append_of_ne_nil hne]⟩

def directoriesTo (root path : Path) : List String := path.parent.parts.drop root.parts.length

/-- A file that is read always has a name. -/
theorem caseName_of_located (h : Located files base root paths) (hpath : path ∈ paths) :
    caseName root path =
      .ok ("-".intercalate ("run" :: directoriesTo root path ++ [path.stem])) := by
  obtain ⟨dirs, hparent⟩ := below_of_located h hpath
  have hprefix : root.parts.isPrefixOf path.parent.parts = true := by
    rw [hparent, List.isPrefixOf_iff_prefix]
    exact List.prefix_append _ _
  have hroot : path.parent.root = root.root := by rw [hparent]
  rw [caseName, Path.relativeTo?, if_pos ⟨hroot, hprefix⟩]
  rfl

/-! ## What the files come to -/

theorem casesAt_eq_ok (h : casesAt files limits root path = .ok cases) :
    ∃ d name, DefinitionFile.load files path = .ok d ∧ caseName root path = .ok name ∧
      cases = casesOf limits path name d := by
  obtain ⟨d, hload, hrest⟩ := bind_eq_ok.mp h
  cases hname : caseName root path with
  | error g =>
    rw [hname] at hrest
    cases hrest
  | ok name =>
    rw [hname] at hrest
    cases hrest
    exact ⟨d, name, hload, rfl, rfl⟩

theorem casesAt_eq_error (h : casesAt files limits root path = .error f) :
    DefinitionFile.load files path = .error f ∨ ∃ g, caseName root path = .error g := by
  rcases bind_eq_error h with hload | ⟨d, -, hname⟩
  · exact .inl hload
  · cases hcase : caseName root path with
    | error g => exact .inr ⟨g, rfl⟩
    | ok name =>
      rw [hcase] at hname
      cases hname

theorem casesIn_eq_ok (h : casesIn files limits root paths = .ok cases) :
    ∀ c ∈ cases, ∃ path ∈ paths, ∃ d name, DefinitionFile.load files path = .ok d ∧
      caseName root path = .ok name ∧ c ∈ casesOf limits path name d := by
  induction paths generalizing cases with
  | nil =>
    cases h
    exact fun c hc => absurd hc List.not_mem_nil
  | cons path rest ih =>
    obtain ⟨first, hfirst, hrest⟩ := bind_eq_ok.mp h
    obtain ⟨more, hmore, hdone⟩ := bind_eq_ok.mp hrest
    cases hdone
    intro c hc
    rcases List.mem_append.mp hc with hc | hc
    · obtain ⟨d, name, hload, hname, rfl⟩ := casesAt_eq_ok hfirst
      exact ⟨path, List.mem_cons_self, d, name, hload, hname, hc⟩
    · obtain ⟨other, hother, hcase⟩ := ih hmore c hc
      exact ⟨other, List.mem_cons_of_mem path hother, hcase⟩

theorem casesIn_eq_error (h : casesIn files limits root paths = .error f) :
    ∃ path ∈ paths, DefinitionFile.load files path = .error f ∨
      ∃ g, caseName root path = .error g := by
  induction paths with
  | nil => cases h
  | cons path rest ih =>
    rcases bind_eq_error h with hfirst | ⟨first, -, hrest⟩
    · exact ⟨path, List.mem_cons_self, casesAt_eq_error hfirst⟩
    · rcases bind_eq_error hrest with hmore | ⟨more, -, hdone⟩
      · obtain ⟨other, hother, hfailed⟩ := ih hmore
        exact ⟨other, List.mem_cons_of_mem path hother, hfailed⟩
      · cases hdone

/-! ## Reading -/

theorem runFrom_casesIn (limits : Limits τ) (root : Path) (paths : List Path) (b : Bench ω) :
    ((do
      let cases ← Action.ofExcept (casesIn (← get).files limits root paths)
      Bench.log .info "test_cases_discovered"
        [("base", .str root.toText), ("count", .int cases.length)]
      return cases : Action (Bench ω) (List (TestCase τ))).runFrom b).1 =
      casesIn b.files limits root paths := by
  rw [Action.runFrom_bind]
  show ((Action.ofExcept (casesIn b.files limits root paths) >>= fun cases => _ :
    Action (Bench ω) (List (TestCase τ))).runFrom b).1 = _
  rw [Action.runFrom_bind]
  cases casesIn b.files limits root paths with
  | error f => rfl
  | ok cases => rfl

/-- Reading at a path that is given comes to what the files there come to. -/
theorem read_ending {text : String} (htext : text.isEmpty = false) (b : Bench ω) :
    ((read text limits).runFrom b).1 =
      match (filesAt (.ofText text)).runFrom b with
      | (.ok (root, paths), b') => casesIn b'.files limits root paths
      | (.error f, _) => .error f := by
  rw [read, if_neg (by rw [htext]; exact Bool.false_ne_true), Action.runFrom_bind]
  rcases (filesAt (.ofText text)).runFrom b with ⟨f | ⟨root, paths⟩, b'⟩
  · rfl
  · exact runFrom_casesIn limits root paths b'

theorem read_of_located {text : String} (htext : text.isEmpty = false) {b : Bench ω}
    (h : Located b.files (.ofText text) root paths) :
    ((read text limits).runFrom b).1 = casesIn b.files limits root paths := by
  obtain ⟨b', hfiles, hsame⟩ := runFrom_filesAt h
  rw [read_ending htext, hfiles, ← hsame]

theorem read_cases {text : String} (htext : text.isEmpty = false) (b : Bench ω) :
    (∃ root paths, Located b.files (.ofText text) root paths ∧
        ((read text limits).runFrom b).1 = casesIn b.files limits root paths) ∨
      (∃ m, ((read text limits).runFrom b).1 = .error (.configuration m)) ∨
      ∃ f, ((read text limits).runFrom b).1 = .error (.fault f) ∧
        Unlocatable b.files (.ofText text) f := by
  rcases filesAt_cases (.ofText text) b with
    ⟨root, paths, hlocated⟩ | ⟨m, hrefused⟩ | ⟨f, hfault, hunlocatable⟩
  · exact .inl ⟨root, paths, hlocated, read_of_located htext hlocated⟩
  · refine .inr (.inl ⟨m, ?_⟩)
    rw [read_ending htext, hrefused]
  · refine .inr (.inr ⟨f, ?_, hunlocatable⟩)
    rw [read_ending htext, hfault]

theorem read_empty (b : Bench ω) : (read "" limits).runFrom b = (.ok [], b) := rfl

/-- Each test case is one that a file makes, under the name that the way to the file gives it. -/
theorem read_eq_ok {text : String} {b : Bench ω}
    (h : ((read text limits).runFrom b).1 = .ok cases) :
    cases = [] ∨ ∃ root paths, Located b.files (.ofText text) root paths ∧
      ∀ c ∈ cases, ∃ path ∈ paths, ∃ d, DefinitionFile.load b.files path = .ok d ∧
        c ∈ casesOf limits path
          ("-".intercalate ("run" :: directoriesTo root path ++ [path.stem])) d := by
  cases htext : text.isEmpty with
  | true =>
    rw [String.isEmpty_iff.mp htext, read_empty] at h
    cases h
    exact .inl rfl
  | false =>
    rcases read_cases htext b with ⟨root, paths, hlocated, hcases⟩ | ⟨m, hm⟩ | ⟨f, hf, -⟩
    · refine .inr ⟨root, paths, hlocated, fun c hc => ?_⟩
      rw [h] at hcases
      obtain ⟨path, hpath, d, name, hload, hname, hc⟩ := casesIn_eq_ok hcases.symm c hc
      rw [caseName_of_located hlocated hpath] at hname
      cases hname
      exact ⟨path, hpath, d, hload, hc⟩
    · rw [h] at hm
      cases hm
    · rw [h] at hf
      cases hf

/-- Reading fails because there is nothing at the path, because it is not known which files to
read, or with the failure of a file that cannot be loaded. -/
theorem read_eq_error {text : String} {b : Bench ω}
    (h : ((read text limits).runFrom b).1 = .error f) :
    (∃ m, f = .configuration m) ∨ (∃ g, f = .fault g ∧ Unlocatable b.files (.ofText text) g) ∨
      ∃ root paths path, Located b.files (.ofText text) root paths ∧ path ∈ paths ∧
        DefinitionFile.load b.files path = .error f := by
  cases htext : text.isEmpty with
  | true =>
    rw [String.isEmpty_iff.mp htext, read_empty] at h
    cases h
  | false =>
    rcases read_cases htext b with
      ⟨root, paths, hlocated, hcases⟩ | ⟨m, hm⟩ | ⟨g, hg, hunlocatable⟩
    · rw [h] at hcases
      obtain ⟨path, hpath, hload | ⟨g, hname⟩⟩ := casesIn_eq_error hcases.symm
      · exact .inr (.inr ⟨root, paths, path, hlocated, hpath, hload⟩)
      · rw [caseName_of_located hlocated hpath] at hname
        cases hname
    · rw [h] at hm
      cases hm
      exact .inl ⟨m, rfl⟩
    · rw [h] at hg
      cases hg
      exact .inr (.inl ⟨g, rfl, hunlocatable⟩)

end TestSuite
end TelemetryCheck
