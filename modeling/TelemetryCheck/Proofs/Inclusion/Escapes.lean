import TelemetryCheck.Proofs.Files.Questions
import TelemetryCheck.Proofs.Inclusion.Loading

/-!
# What loading does not report

A file that cannot be used is reported with its path: there is no such file, its bytes cannot be
had, it is not well formed, or what it says is no definition.  Three things escape these reports: a
path that no file can have, bytes that are no text, and a value that is written down but cannot
exist.
-/

namespace TelemetryCheck
namespace DefinitionFile

open DefinitionSource

variable {files : Files} {path p q : Path}

/-! ## One file -/

/-- What is not reported about the file at a path. -/
inductive FileEscape (files : Files) (q : Path) : Fault → Prop
  | name : files.isFile q = .error (FileError.nameTooLong.fault q) →
      FileEscape files q (FileError.nameTooLong.fault q)
  | encoding {b : ByteArray} {e : Text.Utf8Error} : bytes files q = .ok b →
      Text.decodeStrict b.toList = .error e → FileEscape files q (.encoding e)
  | value {b : ByteArray} {chars : List Char} {f : Fault} : bytes files q = .ok b →
      Text.decodeStrict b.toList = .ok chars → Yaml.read chars = .error (.fault f) →
        FileEscape files q f

theorem bytes_error {f : Failure} (h : bytes files q = .error f) :
    (∃ m, f = .configuration m) ∨
      f = .fault (FileError.nameTooLong.fault q) ∧
        files.isFile q = .error (FileError.nameTooLong.fault q) := by
  unfold bytes at h
  split at h
  · rename_i g hfile
    cases h
    obtain rfl := Files.isFile_error hfile
    exact .inr ⟨rfl, hfile⟩
  · cases h
    exact .inl ⟨_, rfl⟩
  · split at h
    · cases h
    · cases h
      exact .inl ⟨_, rfl⟩

theorem data_error {b : ByteArray} {f : Failure} (h : data files q b = .error f) :
    (∃ m, f = .configuration m) ∨
      (∃ e, f = .fault (.encoding e) ∧ Text.decodeStrict b.toList = .error e) ∨
      ∃ chars g, f = .fault g ∧ Text.decodeStrict b.toList = .ok chars ∧
        Yaml.read chars = .error (.fault g) := by
  unfold data at h
  split at h
  · rename_i e hdecode
    cases h
    exact .inr (.inl ⟨e, rfl, hdecode⟩)
  · rename_i chars hdecode
    split at h
    · cases h
    · cases h
      exact .inl ⟨_, rfl⟩
    · rename_i g hread
      cases h
      exact .inr (.inr ⟨chars, g, rfl, hdecode, hread⟩)

theorem entries_error {d : Data} {f : Failure} (h : entries q d = .error f) :
    ∃ m, f = .configuration m := by
  unfold entries at h
  split at h
  · cases h
  · cases h
  · cases h
    exact ⟨_, rfl⟩

theorem definition_error {es : List (Data × Data)} {f : Failure} (h : definition q es = .error f) :
    ∃ m, f = .configuration m := by
  unfold definition at h
  split at h
  · cases h
  · cases h
    exact ⟨_, rfl⟩

/-- A file that cannot be used is reported unless it is one of those that are not. -/
theorem read_error {f : Failure} (h : read files q = .error f) :
    (∃ m, f = .configuration m) ∨ ∃ g, f = .fault g ∧ FileEscape files q g := by
  rcases bind_eq_error h with hbytes | ⟨b, hbytes, h⟩
  · rcases bytes_error hbytes with hm | ⟨rfl, hfile⟩
    · exact .inl hm
    · exact .inr ⟨_, rfl, .name hfile⟩
  rcases bind_eq_error h with hdata | ⟨d, -, h⟩
  · rcases data_error hdata with hm | ⟨e, rfl, hdecode⟩ | ⟨chars, g, rfl, hdecode, hread⟩
    · exact .inl hm
    · exact .inr ⟨_, rfl, .encoding hbytes hdecode⟩
    · exact .inr ⟨g, rfl, .value hbytes hdecode hread⟩
  rcases bind_eq_error h with hentries | ⟨es, -, hdefinition⟩
  · exact .inl (entries_error hentries)
  · exact .inl (definition_error hdefinition)

/-- What is not reported about a file is how reading it ends. -/
theorem read_of_escape {g : Fault} (h : FileEscape files q g) :
    read files q = .error (.fault g) := by
  unfold read
  cases h with
  | name hfile =>
    rw [bytes, hfile]
    rfl
  | encoding hbytes hdecode =>
    rw [hbytes]
    show (data files q _ >>= _) = _
    rw [data, hdecode]
    rfl
  | value hbytes hdecode hread =>
    rw [hbytes]
    show (data files q _ >>= _) = _
    rw [data, hdecode]
    dsimp only
    rw [hread]
    rfl

/-! ## All files on the way -/

/-- What is not reported when the definition at a path is loaded: that the path, or an entry of a
file on the way, can be no path, and whatever is not reported about a file on the way. -/
inductive Escape (files : Files) (path : Path) : Fault → Prop
  | start : Files.hasNull path.toText = true → Escape files path (FileError.nullByte.fault path)
  | file {p q : Path} {g : Fault} : files.locate path = .ok p → (source files).Reaches p q →
      FileEscape files q g → Escape files path g
  | entry {p q : Path} {d : Definition} {name : String} : files.locate path = .ok p →
      (source files).Reaches p q → read files q = .ok d → name ∈ d.includes →
        Files.hasNull (q.parent ++ Path.ofText name).toText = true →
          Escape files path (FileError.nullByte.fault (q.parent ++ Path.ofText name))

theorem locate_error {g : Fault} (h : files.locate path = .error g) :
    Files.hasNull path.toText = true ∧ g = FileError.nullByte.fault path := by
  unfold Files.locate at h
  split at h
  · rename_i hnull
    cases h
    exact ⟨hnull, rfl⟩
  · cases h

theorem locate_of_hasNull (files : Files) (h : Files.hasNull path.toText = true) :
    files.locate path = .error (FileError.nullByte.fault path) := by
  rw [Files.locate, if_pos h]

theorem includePath_error {name : String} {f : Failure} (h : includePath files q name = .error f) :
    Files.hasNull (q.parent ++ Path.ofText name).toText = true ∧
      f = .fault (FileError.nullByte.fault (q.parent ++ Path.ofText name)) := by
  unfold includePath at h
  split at h
  · cases h
  · rename_i g hlocate
    cases h
    obtain ⟨hnull, rfl⟩ := locate_error hlocate
    exact ⟨hnull, rfl⟩

theorem includePath_of_hasNull (files : Files) {name : String}
    (h : Files.hasNull (q.parent ++ Path.ofText name).toText = true) :
    includePath files q name =
      .error (.fault (FileError.nullByte.fault (q.parent ++ Path.ofText name))) := by
  have hlocate := locate_of_hasNull files h
  unfold includePath
  rw [hlocate]

/-- Loading comes to a definition, to a report, or to something that is not reported. -/
theorem load_error {f : Failure} (h : load files path = .error f) :
    (∃ m, f = .configuration m) ∨ ∃ g, f = .fault g ∧ Escape files path g := by
  cases hpath : files.locate path with
  | error g =>
    rw [load, hpath] at h
    cases h
    obtain ⟨hnull, rfl⟩ := locate_error hpath
    exact .inr ⟨_, rfl, .start hnull⟩
  | ok p =>
    have hgather := h
    rw [load_of_locate hpath] at hgather
    cases obstacle_of_gather_error .first hgather with
    | circular => exact .inl ⟨_, rfl⟩
    | unread hreach hread =>
      rw [source_read] at hread
      rcases read_error hread with hm | ⟨g, rfl, hescape⟩
      · exact .inl hm
      · exact .inr ⟨g, rfl, .file hpath hreach hescape⟩
    | unlocated hreach hread hname hlocate =>
      rw [source_read] at hread
      rw [source_locate] at hlocate
      obtain ⟨hnull, rfl⟩ := includePath_error hlocate
      exact .inr ⟨_, rfl, .entry hpath hreach hread hname hnull⟩
    | limit => exact absurd h (load_finished files path)

/-- A definition is only loaded where everything on the way to it is reported. -/
theorem not_escape_of_load {d : Definition} {g : Fault} (h : load files path = .ok d) :
    ¬Escape files path g := by
  intro hescape
  cases hescape with
  | start hnull =>
    rw [load, locate_of_hasNull files hnull] at h
    cases h
  | file hpath hreach hfile =>
    rw [load_of_locate hpath] at h
    have hcomplete := complete_of_gather h
    obtain ⟨d', hd', -⟩ := hcomplete _ hreach
    rw [source_read, read_of_escape hfile] at hd'
    cases hd'
  | entry hpath hreach hread hname hnull =>
    rw [load_of_locate hpath] at h
    have hcomplete := complete_of_gather h
    obtain ⟨d', hd', hentries⟩ := hcomplete _ hreach
    rw [source_read, hread, Except.ok.injEq] at hd'
    subst hd'
    obtain ⟨r, hr⟩ := hentries _ hname
    rw [source_locate, includePath_of_hasNull files hnull] at hr
    cases hr

end DefinitionFile
end TelemetryCheck
