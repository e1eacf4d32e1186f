import TelemetryCheck.Files
import TelemetryCheck.Proofs.FirstFailure

/-!
# Questions about files

What cannot be asked of a tree of files.  A name that is not there, or that is below a file, is an
answer like any other; only a path that no file can have is not.
-/

namespace TelemetryCheck
namespace Files

variable {files : Files}

theorem walk_error {names : List String} {above : List (String × FileTree)} {here : FileTree}
    {e : FileError} (h : walk above here names = .error e) :
    e = .notDirectory ∨ e = .nameTooLong ∨ e = .missing := by
  fun_induction walk above here names <;> grind

theorem find_error {p : Path} {e : FileError} (h : files.find p = .error e) :
    e.meansAbsent = true ∨ e = .nameTooLong := by
  rcases bind_eq_error h with hnames | ⟨names, -, hwalk⟩
  · unfold names at hnames
    split at hnames
    · cases hnames
      exact .inl rfl
    · split at hnames
      · cases hnames
        exact .inr rfl
      · cases hnames
  · rcases bind_eq_error hwalk with hwalk | ⟨found, -, hfound⟩
    · rcases walk_error hwalk with rfl | rfl | rfl
      · exact .inl rfl
      · exact .inr rfl
      · exact .inl rfl
    · cases hfound

/-- Whether there is a file at a path is not known only where the path, or a name in it, is too
long. -/
theorem isFile_error {p : Path} {f : Fault} (h : files.isFile p = .error f) :
    f = FileError.nameTooLong.fault p := by
  unfold isFile test at h
  cases hfind : files.find p with
  | ok found =>
    rw [hfind] at h
    cases h
  | error e =>
    rw [hfind] at h
    rcases find_error hfind with habsent | rfl
    · simp only [habsent, if_true] at h
      cases h
    · cases h
      rfl

end Files
end TelemetryCheck
