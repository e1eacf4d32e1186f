import TelemetryCheck.Text.Ranges

/-!
# Paths

A path is a root and names; empty names and `.` are left out when it is read, `..` stays.
-/

namespace TelemetryCheck

structure Path where
  /-- Empty for a relative path. -/
  root : String
  parts : List String
  deriving Repr, DecidableEq

namespace Path

/-- The root of a text: exactly two slashes at the front are a root of their own. -/
def rootOf : List Char → String
  | ['/', '/'] => "//"
  | '/' :: '/' :: '/' :: _ => "/"
  | '/' :: '/' :: _ => "//"
  | '/' :: _ => "/"
  | _ => ""

def ofText (s : String) : Path :=
  let names := (Text.splitAt '/' s.toList).map String.ofList
  ⟨rootOf s.toList, names.filter fun n => n ≠ "" ∧ n ≠ "."⟩

/-- Whether a text can only be the path of a directory. -/
def isDirectoryText (s : String) : Bool :=
  match (Text.splitAt '/' s.toList).getLast? with
  | some [] | some ['.'] => true
  | _ => false

def isAbsolute (p : Path) : Bool := p.root ≠ ""

def toText (p : Path) : String :=
  if p.root = "" ∧ p.parts = [] then "." else p.root ++ "/".intercalate p.parts

/-- A path seen from another one; an absolute path is itself. -/
def append (p q : Path) : Path :=
  if q.isAbsolute then q else ⟨p.root, p.parts ++ q.parts⟩

instance : HAppend Path Path Path := ⟨append⟩

def child (p : Path) (name : String) : Path := p ++ ofText name

def parent (p : Path) : Path := ⟨p.root, p.parts.dropLast⟩

def name (p : Path) : String := p.parts.getLast?.getD ""

/-- The name up to its last dot, if that dot is neither its first nor its last character. -/
def stem (p : Path) : String :=
  let chars := p.name.toList
  let after := chars.reverse.takeWhile (· ≠ '.')
  let before := chars.take (chars.length - after.length - 1)
  if chars.contains '.' && !after.isEmpty && !before.isEmpty then String.ofList before else p.name

/-- Names with `..` taken back; `done` holds what came before, last first. -/
def foldDots (done : List String) : List String → List String
  | [] => done.reverse
  | ".." :: rest => foldDots (done.drop 1) rest
  | n :: rest => foldDots (n :: done) rest

/-- The absolute path without `..`, as seen from a working directory. -/
def resolve (cwd p : Path) : Path := ⟨"/", foldDots [] (cwd ++ p).parts⟩

/-- The names that lead from a directory to a path below it. -/
def relativeTo? (p base : Path) : Option (List String) :=
  if p.root = base.root ∧ base.parts.isPrefixOf p.parts then some (p.parts.drop base.parts.length)
  else none

end Path
end TelemetryCheck
