import TelemetryCheck.Definition
import TelemetryCheck.Failure
import TelemetryCheck.Path

/-!
# Inclusion

A definition may include others, which may include others again. What it includes is merged into
it in order, each included definition with all that it includes itself. A definition that is
reached from itself is refused; one that is reached in two ways counts twice.
-/

namespace TelemetryCheck

structure DefinitionSource where
  /-- The path that an entry in the list of includes of a file stands for. -/
  locate : Path → String → Except Failure Path
  /-- The definition at a path, with its includes still listed. -/
  read : Path → Except Failure Definition

namespace DefinitionSource

/-- The failure that a walk along includes ends with when it comes back to `path`. -/
def circular (chain : List Path) (path : Path) : Failure :=
  let walk := (chain ++ [path]).map Path.toText
  .configuration
    { summary := "Circular include detected: " ++ " -> ".intercalate walk
      source := walk.head? }

def closed (d : Definition) : Definition := { d with includes := [] }

/-- Merges what the includes come to into a definition, in order. -/
def mergeAll (definitionOf : String → Except Failure Definition) :
    Definition → List String → Except Failure Definition
  | d, [] => .ok d
  | d, name :: rest =>
    match definitionOf name with
    | .ok other => mergeAll definitionOf (d.merge other) rest
    | .error f => .error f

/-- The definition at a path with all that it includes. `chain` holds the paths that led here,
and `depth` bounds how many more may follow. -/
def gather (s : DefinitionSource) : Nat → List Path → Path → Except Failure Definition
  | 0, _, _ => .error .unfinished
  | depth + 1, chain, path =>
    if chain.contains path then .error (circular chain path)
    else
      match s.read path with
      | .error f => .error f
      | .ok d =>
        (mergeAll
          (fun name =>
            match s.locate path name with
            | .ok p => gather s depth (chain ++ [path]) p
            | .error f => .error f)
          d d.includes).map closed

theorem gather_circular (s : DefinitionSource) (depth : Nat) {chain : List Path} {path : Path}
    (h : path ∈ chain) : s.gather (depth + 1) chain path = .error (circular chain path) := by
  simp [gather, h]

end DefinitionSource
end TelemetryCheck
