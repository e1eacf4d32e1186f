import TelemetryCheck.DefinitionFile
import TelemetryCheck.Proofs.Files.Places
import TelemetryCheck.Proofs.Inclusion.Flattening

/-!
# Loading definition files

Inclusion between files.  The files on a chain are distinct and there, so a tree of files bounds
how many calls may follow one another, and loading is never cut off.  It comes to the definition
that the included files amount to, unless some of them include themselves.
-/

namespace TelemetryCheck
namespace DefinitionFile

open DefinitionSource Definition

variable {files : Files} {path p q : Path} {chain : List Path}

theorem source_read (files : Files) : (source files).read = read files := by rw [source]

theorem source_locate (files : Files) : (source files).locate = includePath files := by rw [source]

/-! ## Reading one file -/

theorem isFile_of_read {d : Definition} (h : (source files).read p = .ok d) :
    files.isFile p = .ok true := by
  rw [source_read] at h
  unfold read bytes at h
  cases hfile : files.isFile p with
  | error f =>
    rw [hfile] at h
    cases h
  | ok found =>
    cases found with
    | false =>
      rw [hfile] at h
      cases h
    | true => rfl

theorem bind_finished {α β : Type} {x : Except Failure α} {next : α → Except Failure β}
    (hx : x ≠ .error .unfinished) (hnext : ∀ a, next a ≠ .error .unfinished) :
    x >>= next ≠ .error .unfinished := by
  cases x with
  | error f =>
    intro h
    cases h
    exact hx rfl
  | ok a => exact hnext a

theorem bytes_finished (files : Files) (p : Path) : bytes files p ≠ .error .unfinished := by
  intro h
  unfold bytes at h
  split at h
  · cases h
  · cases h
  · split at h <;> cases h

theorem data_finished (files : Files) (p : Path) (b : ByteArray) :
    data files p b ≠ .error .unfinished := by
  intro h
  unfold data at h
  split at h
  · cases h
  · split at h <;> cases h

theorem entries_finished (p : Path) (d : Data) : entries p d ≠ .error .unfinished := by
  intro h
  unfold entries at h
  split at h <;> cases h

theorem definition_finished (p : Path) (es : List (Data × Data)) :
    definition p es ≠ .error .unfinished := by
  intro h
  unfold definition at h
  split at h <;> cases h

/-- Each step of reading a file fails in a way of its own, and never by being cut off. -/
theorem read_finished (files : Files) (p : Path) :
    (source files).read p ≠ .error .unfinished := by
  rw [source_read]
  refine bind_finished (bytes_finished files p) fun b => ?_
  refine bind_finished (data_finished files p b) fun d => ?_
  exact bind_finished (entries_finished p d) (definition_finished p)

/-! ## Entries -/

/-- An entry is a path seen from the directory of the file that lists it. -/
theorem locate_eq {name : String} (h : (source files).locate p name = .ok q) :
    q = files.resolve (p.parent ++ Path.ofText name) ∧ q.Resolved := by
  rw [source_locate] at h
  unfold includePath at h
  cases hq : files.locate (p.parent ++ Path.ofText name) with
  | error f =>
    rw [hq] at h
    cases h
  | ok r =>
    rw [hq] at h
    cases h
    exact ⟨Files.eq_resolve_of_locate hq, Files.resolved_of_locate hq⟩

theorem locate_finished (files : Files) (p : Path) (name : String) :
    (source files).locate p name ≠ .error .unfinished := by
  intro h
  rw [source_locate] at h
  unfold includePath at h
  split at h <;> cases h

/-! ## Chains of files -/

/-- The paths on the chain of a call are distinct files of the tree. -/
theorem files_of_calls (hp : p.Resolved) (h : (source files).Calls p chain q) :
    ∀ x ∈ chain, x.Resolved ∧ files.isFile x = .ok true := by
  intro x hx
  obtain ⟨d, hd⟩ := h.read_of_mem x hx
  have hresolved : ∀ x ∈ chain, x.Resolved :=
    (h.forall_of_located hp fun _ _ _ hq => (locate_eq hq).2).1
  exact ⟨hresolved x hx, isFile_of_read hd⟩

theorem length_le_of_calls (hp : p.Resolved) (h : (source files).Calls p chain q) :
    chain.length ≤ files.places.length :=
  Files.length_le_of_isFile h.nodup (files_of_calls hp h)

/-! ## Loading -/

theorem load_of_locate (hpath : files.locate path = .ok p) :
    load files path = (source files).gather (files.places.length + 1) [] p := by
  rw [load, hpath]
  rfl

/-- Loading is never cut off: it would take a chain of more files than there are. -/
theorem load_finished (files : Files) (path : Path) : load files path ≠ .error .unfinished := by
  cases hpath : files.locate path with
  | error f =>
    rw [load, hpath]
    exact fun h => nomatch h
  | ok p =>
    intro h
    rw [load_of_locate hpath] at h
    have hp : p.Resolved := Files.resolved_of_locate hpath
    -- of all obstacles only the limit cuts a walk off, and no chain is that long
    have hobstacle := obstacle_of_gather_error .first h
    generalize hf : Failure.unfinished = f at hobstacle
    cases hobstacle with
    | circular => cases hf
    | unread _ hread =>
      subst hf
      exact read_finished files _ hread
    | unlocated _ _ _ hlocate =>
      subst hf
      exact locate_finished files _ _ hlocate
    | limit hcall hlength =>
      have hle := length_le_of_calls hp hcall
      rw [hlength, List.length_nil] at hle
      omega

/-- Where everything included is there, loading comes to a definition or back to its chain. -/
theorem load_of_complete (hpath : files.locate path = .ok p)
    (hcomplete : (source files).Complete p) :
    (∃ d, load files path = .ok d) ∨
      ∃ chain q, (source files).Calls p chain q ∧ q ∈ chain ∧
        load files path = .error (circular chain q) := by
  rw [load_of_locate hpath]
  refine gather_of_complete hcomplete fun chain q hcall => ?_
  have hle := length_le_of_calls (Files.resolved_of_locate hpath) hcall
  omega

/-- Loading flattens includes depth first.  Where everything included is there and nothing includes
itself, it comes to the definitions of the files in the order in which they are met, taken as one;
an entry is a path seen from the directory of the file that lists it. -/
theorem load_eq_combined_of_acyclic (hpath : files.locate path = .ok p)
    (hcomplete : (source files).Complete p) (hacyclic : ¬(source files).Cyclic p) :
    (∃ ds, (source files).Preorder p ds ∧ load files path = .ok (combined ds)) ∧
      ∀ r name q, (source files).locate r name = .ok q →
        q = files.resolve (r.parent ++ Path.ofText name) := by
  refine ⟨?_, fun r name q hq => (locate_eq hq).1⟩
  rcases load_of_complete hpath hcomplete with ⟨d, hd⟩ | ⟨chain, q, hcall, hq, -⟩
  · rw [load_of_locate hpath] at hd ⊢
    obtain ⟨ds, hds, rfl⟩ := preorder_of_gather hd
    exact ⟨ds, hds, hd⟩
  · exact absurd (hcall.cyclic hq) hacyclic

def diamond : Files :=
  { tree := .directory
      [("a.yaml", .file (.bytes "include: [x/b.yaml, c.yaml]\n".toUTF8)),
        ("x", .directory [("b.yaml", .file (.bytes "include:\n  - ../c.yaml\n".toUTF8))]),
        ("c.yaml", .file (.bytes "input:\n- path: /c\n".toUTF8))] }

theorem diamond_loaded :
    ∃ ds, (source diamond).Preorder ⟨"/", ["a.yaml"]⟩ ds ∧
      load diamond ⟨"", ["a.yaml"]⟩ = .ok (combined ds) ∧
      (combined ds).input = [{ path := "/c" }, { path := "/c" }] := by
  have hclosed : (source diamond).closedUnder
      [⟨"/", ["a.yaml"]⟩, ⟨"/", ["x", "b.yaml"]⟩, ⟨"/", ["c.yaml"]⟩] = true := by
    decide +kernel
  have hsome : ((source diamond).gather 3 [] ⟨"/", ["a.yaml"]⟩).toOption.isSome = true := by
    decide +kernel
  have hacyclic : ¬(source diamond).Cyclic ⟨"/", ["a.yaml"]⟩ := by
    cases h : (source diamond).gather 3 [] ⟨"/", ["a.yaml"]⟩ with
    | error f =>
      rw [h] at hsome
      cases hsome
    | ok d => exact not_cyclic_of_gather h
  have hinput : (load diamond ⟨"", ["a.yaml"]⟩).toOption.map (fun d => d.input) =
      some [{ path := "/c" }, { path := "/c" }] := by
    decide +kernel
  have hpath : diamond.locate ⟨"", ["a.yaml"]⟩ = .ok ⟨"/", ["a.yaml"]⟩ := by rfl
  obtain ⟨⟨ds, hds, hload⟩, -⟩ := load_eq_combined_of_acyclic hpath
    (complete_of_closedUnder List.mem_cons_self hclosed) hacyclic
  rw [hload] at hinput
  exact ⟨ds, hds, hload, Option.some.inj hinput⟩

/-- The report on a call that comes back to its chain shows the walk that led there, as paths, and
is about the file where it began. -/
theorem circular_of_calls (h : (source files).Calls p chain q) :
    circular chain q = .configuration
      { summary :=
          "Circular include detected: " ++ " -> ".intercalate ((chain ++ [q]).map Path.toText)
        source := some p.toText } := by
  have hstart : ((chain ++ [q]).map Path.toText).head? = some p.toText := by
    rw [List.head?_map, h.head?]
    rfl
  rw [circular, hstart]

/-- Loading always ends: no chain of calls is longer than the tree has places, and allowing more
calls changes nothing.  Where everything included is there, it comes to a definition if nothing
includes itself.  If something does, it is refused, and the report shows a walk along includes from
the file to be loaded that ends at the only file it meets twice. -/
theorem load_refuses_exactly_cycles (files : Files) (path : Path) :
    load files path ≠ .error .unfinished ∧
      ∀ p, files.locate path = .ok p →
        (∀ more, (source files).gather (files.places.length + 1 + more) [] p = load files path) ∧
        (∀ chain q, (source files).Calls p chain q →
          chain.Nodup ∧ chain.length ≤ files.places.length ∧
            ∀ x ∈ chain, x.Resolved ∧ files.isFile x = .ok true) ∧
        ((source files).Complete p →
          (¬(source files).Cyclic p → ∃ d, load files path = .ok d) ∧
          ((source files).Cyclic p → ∃ chain q, (source files).Lasso p chain q ∧
            load files path = .error (.configuration
              { summary := "Circular include detected: " ++
                  " -> ".intercalate ((chain ++ [q]).map Path.toText)
                errors := []
                source := some p.toText }))) := by
  refine ⟨load_finished files path, fun p hpath => ⟨fun more => ?_, fun chain q hcall => ?_, ?_⟩⟩
  · have hfinished := load_finished files path
    rw [load_of_locate hpath] at hfinished ⊢
    exact gather_add more hfinished
  · have hp : p.Resolved := Files.resolved_of_locate hpath
    exact ⟨hcall.nodup, length_le_of_calls hp hcall, files_of_calls hp hcall⟩
  · intro hcomplete
    rcases load_of_complete hpath hcomplete with ⟨d, hd⟩ | ⟨chain, q, hcall, hq, hload⟩
    · refine ⟨fun _ => ⟨d, hd⟩, fun hcyclic => absurd hcyclic ?_⟩
      rw [load_of_locate hpath] at hd
      exact not_cyclic_of_gather hd
    · refine ⟨fun hacyclic => absurd (hcall.cyclic hq) hacyclic, fun _ => ?_⟩
      rw [circular_of_calls hcall] at hload
      exact ⟨chain, q, hcall.lasso hq, hload⟩

/-- Two files that include each other, one through `..` and `.` and one from the root. -/
def loop : Files :=
  { tree := .directory
      [("a", .directory [("t.yaml", .file (.bytes "include: [../b/./u.yaml]\n".toUTF8))]),
        ("b", .directory [("u.yaml", .file (.bytes "include: [/a/t.yaml]\n".toUTF8))])] }

def summaryOf : Except Failure Definition → String
  | .error (.configuration m) => m.summary
  | _ => ""

theorem loop_refused :
    load loop ⟨"", ["a", "t.yaml"]⟩ = .error (.configuration
        { summary := "Circular include detected: /a/t.yaml -> /b/u.yaml -> /a/t.yaml"
          errors := []
          source := some "/a/t.yaml" }) ∧
      ∃ chain q, (source loop).Lasso ⟨"/", ["a", "t.yaml"]⟩ chain q ∧
        " -> ".intercalate ((chain ++ [q]).map Path.toText) =
          "/a/t.yaml -> /b/u.yaml -> /a/t.yaml" := by
  have hclosed : (source loop).closedUnder [⟨"/", ["a", "t.yaml"]⟩, ⟨"/", ["b", "u.yaml"]⟩] =
      true := by
    decide +kernel
  have hthere : (source loop).Includes ⟨"/", ["a", "t.yaml"]⟩ ⟨"/", ["b", "u.yaml"]⟩ := by
    decide +kernel
  have hback : (source loop).Includes ⟨"/", ["b", "u.yaml"]⟩ ⟨"/", ["a", "t.yaml"]⟩ := by
    decide +kernel
  have hcyclic : (source loop).Cyclic ⟨"/", ["a", "t.yaml"]⟩ :=
    ⟨_, .refl, .tail (.single hthere) hback⟩
  have hpath : loop.locate ⟨"", ["a", "t.yaml"]⟩ = .ok ⟨"/", ["a", "t.yaml"]⟩ := by rfl
  obtain ⟨-, hsettled⟩ := load_refuses_exactly_cycles loop ⟨"", ["a", "t.yaml"]⟩
  obtain ⟨-, -, hcycles⟩ := hsettled _ hpath
  obtain ⟨chain, q, hlasso, hload⟩ :=
    (hcycles (complete_of_closedUnder List.mem_cons_self hclosed)).2 hcyclic
  have hsummary : summaryOf (load loop ⟨"", ["a", "t.yaml"]⟩) =
      "Circular include detected: /a/t.yaml -> /b/u.yaml -> /a/t.yaml" := by
    decide +kernel
  rw [hload] at hsummary
  dsimp only [summaryOf] at hsummary
  have hwalk : " -> ".intercalate ((chain ++ [q]).map Path.toText) =
      "/a/t.yaml -> /b/u.yaml -> /a/t.yaml" :=
    (String.append_right_inj "Circular include detected: ").mp hsummary
  refine ⟨?_, chain, q, hlasso, hwalk⟩
  rw [hload, hsummary]
  rfl

end DefinitionFile
end TelemetryCheck
