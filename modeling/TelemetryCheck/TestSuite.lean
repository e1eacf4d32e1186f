import TelemetryCheck.DefinitionFile
import TelemetryCheck.Discovery
import TelemetryCheck.TestCase

/-!
# Test suites

The test cases of a file or of everything below a directory. A definition with a matrix makes one
test case for each variant.
-/

namespace TelemetryCheck
namespace TestSuite

/-- How long the checks of every test case may take, and whether it only feeds inputs. -/
structure Limits (τ : Type) where
  timeout : τ
  absentTimeout : τ
  manualDebug : Bool := false

/-- The name of a test case: the directories that lead to its file, and the name of the file
without its ending. -/
def caseName (base path : Path) : Except Fault String :=
  match path.parent.relativeTo? base with
  | some names => .ok ("-".intercalate ("run" :: names ++ [path.stem]))
  | none =>
    .error (.outsideBase path.parent.toText (if base.isAbsolute then base.toText
      else "/".intercalate base.parts))

def variantName (name variant : String) : String := name ++ "-" ++ variant

/-- The definition of a variant: it is deployed as the variant says. -/
def variantDefinition (d : Definition) (v : MatrixVariant) : Definition :=
  { d with dockerCompose := v.dockerCompose, kubernetes := v.kubernetes }

variable {ω τ : Type}

def testCase (limits : Limits τ) (path : Path) (name : String) (d : Definition)
    (variant : Option String) : TestCase τ :=
  { name, path, dir := path.parent, definition := d, matrixVariant := variant,
    timeout := limits.timeout, absentTimeout := limits.absentTimeout,
    manualDebug := limits.manualDebug }

def casesOf (limits : Limits τ) (path : Path) (name : String) (d : Definition) :
    List (TestCase τ) :=
  if d.matrix.isEmpty then [testCase limits path name d none]
  else d.matrix.map fun v =>
    testCase limits path (variantName name v.name) (variantDefinition d v) (some v.name)

def casesAt (files : Files) (limits : Limits τ) (base path : Path) :
    Except Failure (List (TestCase τ)) := do
  let d ← DefinitionFile.load files path
  match caseName base path with
  | .ok name => return casesOf limits path name d
  | .error f => throw (.fault f)

def casesIn (files : Files) (limits : Limits τ) (base : Path) :
    List Path → Except Failure (List (TestCase τ))
  | [] => .ok []
  | path :: rest => do
    let first ← casesAt files limits base path
    let more ← casesIn files limits base rest
    return first ++ more

/-- The directory that names are reckoned from, and the files to read: a file alone, or every
test case file below a directory. -/
def filesAt (base : Path) : Action (Bench ω) (Path × List Path) := do
  let base ← Bench.ask fun files => files.locate base
  if ← Bench.ask fun files => files.isFile base then return (base.parent, [base])
  else if ← Bench.ask fun files => files.isDirectory base then
    return (base, ← Discovery.search base)
  else throw (.configuration { summary := "Test case path does not exist: " ++ base.toText })

/-- Every test case at a path; at an empty one there is none. -/
def read (base : String) (limits : Limits τ) : Action (Bench ω) (List (TestCase τ)) := do
  if base.isEmpty then return []
  else
    let (base, paths) ← filesAt (.ofText base)
    let cases ← Action.ofExcept (casesIn (← get).files limits base paths)
    Bench.log .info "test_cases_discovered"
      [("base", .str base.toText), ("count", .int cases.length)]
    return cases

end TestSuite
end TelemetryCheck
