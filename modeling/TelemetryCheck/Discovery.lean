import TelemetryCheck.Bench
import TelemetryCheck.Text.Line

/-!
# Discovery

Test case files are found below a directory by their names: first the files of a directory, then
its subdirectories, both in order of their names. A directory may ask to be left out.
-/

namespace TelemetryCheck
namespace Discovery

def ignoreName : String := ".oatsignore"

/-- What the name of a template contains. -/
def templateMarks : List String := ["-template.yaml", "-template.yml"]

def holds (part : String) (cs : List Char) : Bool := Text.occurs part.toList cs

/-- Whether `oats` occurs with an ending after it on the same line. -/
def hasCaseName : List Char → Bool
  | [] => false
  | c :: rest =>
    let line := (c :: rest).takeWhile (· ≠ '\n')
    ("oats".toList.isPrefixOf line &&
      (holds ".yaml" (line.drop 4) || holds ".yml" (line.drop 4))) || hasCaseName rest

def isCaseName (name : String) : Bool :=
  hasCaseName name.toList && !templateMarks.any fun mark => holds mark name.toList

/-- What is found on the way through a directory, by the names that lead to it. -/
inductive Finding
  | testCase (names : List String)
  | ignored (names : List String)
  deriving Repr, DecidableEq

def Finding.below (name : String) : Finding → Finding
  | .testCase names => .testCase (name :: names)
  | .ignored names => .ignored (name :: names)

def inOrder {α : Type} (entries : List (String × α)) : List (String × α) :=
  entries.mergeSort fun a b => decide (a.1 ≤ b.1)

def ownCases (entries : List (String × FileTree)) : List Finding :=
  (inOrder (entries.filter fun e => !e.2.isDirectory && isCaseName e.1)).map fun e =>
    .testCase [e.1]

mutual

def findings : FileTree → List Finding
  | .file _ => []
  | .directory entries =>
    if entries.any fun e => e.1 == ignoreName then [.ignored []]
    else
      ownCases entries ++
        (inOrder (entryFindings entries)).flatMap fun e => e.2.map (Finding.below e.1)

/-- What is found below each entry of a directory. -/
def entryFindings : List (String × FileTree) → List (String × List Finding)
  | [] => []
  | (name, t) :: rest => (name, findings t) :: entryFindings rest

end

def pathOf (base : Path) (names : List String) : Path := ⟨base.root, base.parts ++ names⟩

def cases (base : Path) (found : List Finding) : List Path :=
  found.filterMap fun
    | .testCase names => some (pathOf base names)
    | .ignored _ => none

def ignored (base : Path) (found : List Finding) : List Path :=
  found.filterMap fun
    | .testCase _ => none
    | .ignored names => some (pathOf base names)

/-- The findings below a path; where there is no directory, nothing is found. -/
def findingsAt (files : Files) (base : Path) : Except Fault (List Finding) :=
  match files.find base with
  | .ok (_, t) => .ok (findings t)
  | .error .nullByte => .error (FileError.nullByte.fault base)
  | .error _ => .ok []

def search {ω : Type} (base : Path) : Action (Bench ω) (List Path) := do
  let found ← Bench.ask fun files => findingsAt files base
  for path in ignored base found do
    Bench.log .info "directory_ignored" [("path", .str path.toText)]
  return cases base found

theorem findings_file (c : FileContent) : findings (.file c) = [] := by simp [findings]

end Discovery
end TelemetryCheck
