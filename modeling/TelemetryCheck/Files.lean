import TelemetryCheck.Failure
import TelemetryCheck.Files.Tree
import TelemetryCheck.Path

/-!
# Files

A tree of files with a working directory, and what can be asked of it and done to it. A path is
walked name by name, so `..` leaves only a directory that is there. There are no symbolic links:
to resolve a path is to make it absolute and to drop `.` and `..`.
-/

namespace TelemetryCheck

inductive FileError
  | missing
  | exists
  | notDirectory
  | isDirectory
  | nameTooLong
  | nullByte
  | other (number : Nat) (text : String)
  deriving Repr, DecidableEq

namespace FileError

def fault (p : Path) : FileError → Fault
  | .missing => .system 2 "No such file or directory" (some p.toText)
  | .exists => .system 17 "File exists" (some p.toText)
  | .notDirectory => .system 20 "Not a directory" (some p.toText)
  | .isDirectory => .system 21 "Is a directory" (some p.toText)
  | .nameTooLong => .system 36 "File name too long" (some p.toText)
  | .nullByte => .invalidValue "embedded null byte"
  | .other number text => .system number text (some p.toText)

/-- Errors that only mean that there is nothing at a path. -/
def meansAbsent : FileError → Bool
  | .missing | .notDirectory | .nullByte => true
  | _ => false

end FileError

structure Files where
  tree : FileTree := .empty
  cwd : Path := ⟨"/", []⟩
  /-- What is said of a text that is no data, in the words of whatever reads data here. -/
  syntaxNote : List Char → String := fun _ => ""

namespace Files

/-- The greatest size of a name and of a path in bytes. -/
def maxName : Nat := 255

def maxPath : Nat := 4095

def hasNull (s : String) : Bool := s.toList.contains '\x00'

/-- Walks names from a directory. `above` holds the directories that lead to it, the nearest
first, each with the name that leads on from it. -/
def walk (above : List (String × FileTree)) (here : FileTree) :
    List String → Except FileError (List (String × FileTree) × FileTree)
  | [] => .ok (above, here)
  | name :: rest =>
    match here with
    | .file _ => .error .notDirectory
    | .directory _ =>
      if name = ".." then
        match above with
        | [] => walk [] here rest
        | (_, parent) :: more => walk more parent rest
      else if maxName < name.utf8ByteSize then .error .nameTooLong
      else
        match here.child? name with
        | none => .error .missing
        | some t => walk ((name, here) :: above) t rest

def namesOf (above : List (String × FileTree)) : List String := (above.map (·.1)).reverse

def names (f : Files) (p : Path) : Except FileError (List String) :=
  if hasNull p.toText then .error .nullByte
  else if maxPath < p.toText.utf8ByteSize then .error .nameTooLong
  else .ok (f.cwd ++ p).parts

/-- What is at a path, and the names without `..` that lead to it. -/
def find (f : Files) (p : Path) : Except FileError (List String × FileTree) := do
  let names ← f.names p
  let (above, t) ← walk [] f.tree names
  return (namesOf above, t)

def test (f : Files) (p : Path) (holds : FileTree → Bool) : Except Fault Bool :=
  match f.find p with
  | .ok (_, t) => .ok (holds t)
  | .error e => if e.meansAbsent then .ok false else .error (e.fault p)

def isFile (f : Files) (p : Path) : Except Fault Bool := f.test p fun t => !t.isDirectory

def isDirectory (f : Files) (p : Path) : Except Fault Bool := f.test p FileTree.isDirectory

def present (f : Files) (p : Path) : Except Fault Bool := f.test p fun _ => true

def read (f : Files) (p : Path) : Except Fault ByteArray :=
  match f.find p with
  | .ok (_, .file (.bytes b)) => .ok b
  | .ok (_, .file (.unreadable number text)) => .error ((FileError.other number text).fault p)
  | .ok (_, .directory _) => .error (FileError.isDirectory.fault p)
  | .error e => .error (e.fault p)

/-- Where something new can be made: the names that lead to it, and what is there already. -/
def place (f : Files) (p : Path) : Except FileError (List String × Option FileTree) := do
  let names ← f.names p
  match names.getLast? with
  | none => return ([], some f.tree)
  | some last =>
    let (above, parent) ← walk [] f.tree names.dropLast
    match walk above parent [last] with
    | .ok (above, t) => return (namesOf above, some t)
    | .error .missing => return (namesOf above ++ [last], none)
    | .error e => throw e

def makeDirectory (f : Files) (p : Path) : Except FileError Files := do
  match ← f.place p with
  | (_, some _) => throw .exists
  | (names, none) => return { f with tree := .put .empty names f.tree }

/-- What could not be made because a directory is there already counts as made. -/
def settleDirectory (f : Files) (p : Path) : Except FileError Files → Except Fault Files
  | .ok f => .ok f
  | .error .nullByte => .error (FileError.nullByte.fault p)
  | .error .missing => .error (FileError.missing.fault p)
  | .error e => do if ← f.isDirectory p then return f else throw (e.fault p)

/-- Makes a directory and the ones above it, at most `above` of them, unless they are there. -/
def makeDirectoriesFrom : Nat → Files → Path → Except Fault Files
  | 0, f, p => f.settleDirectory p (f.makeDirectory p)
  | above + 1, f, p =>
    match f.makeDirectory p with
    | .error .missing =>
      if p.parent = p then .error (FileError.missing.fault p)
      else do
        let f ← makeDirectoriesFrom above f p.parent
        f.settleDirectory p (f.makeDirectory p)
    | made => f.settleDirectory p made

def makeDirectories (f : Files) (p : Path) : Except Fault Files :=
  makeDirectoriesFrom (p.parts.length + 1) f p

def removeTree (f : Files) (p : Path) : Except Fault Files :=
  match f.find p with
  | .ok (names, .directory _) => .ok { f with tree := f.tree.remove names }
  | .ok _ => .error (FileError.notDirectory.fault p)
  | .error e => .error (e.fault p)

/-- Starts an empty file, in place of one that is there. -/
def startFile (f : Files) (p : Path) : Except Fault Files :=
  match f.place p with
  | .ok (_, some (.directory _)) => .error (FileError.isDirectory.fault p)
  | .ok (names, _) => .ok { f with tree := .put (.file (.bytes .empty)) names f.tree }
  | .error e => .error (e.fault p)

/-- Writes at the end of a file; nothing is kept of what is written to a file that is gone. -/
def append (f : Files) (p : Path) (text : String) : Files :=
  match f.find p with
  | .ok (names, .file (.bytes b)) =>
    { f with tree := .put (.file (.bytes (b ++ text.toUTF8))) names f.tree }
  | _ => f

/-- The absolute path without `..`, as seen from the working directory. -/
def resolve (f : Files) (p : Path) : Path := Path.resolve f.cwd p

/-- The absolute path without `..`, if it can be the path of anything. -/
def locate (f : Files) (p : Path) : Except Fault Path :=
  if hasNull p.toText then .error (FileError.nullByte.fault p) else .ok (f.resolve p)

end Files
end TelemetryCheck
