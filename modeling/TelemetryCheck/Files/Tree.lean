import TelemetryCheck.Json.Value

namespace TelemetryCheck

inductive FileContent
  | bytes (b : ByteArray)
  /-- Reading fails with this system error. -/
  | unreadable (number : Nat) (text : String)

/-- Files and directories. The entries of a directory come in the order in which it lists them. -/
inductive FileTree
  | file (content : FileContent)
  | directory (entries : List (String × FileTree))

namespace FileTree

def empty : FileTree := .directory []

def isDirectory : FileTree → Bool
  | .file _ => false
  | .directory _ => true

def entries : FileTree → List (String × FileTree)
  | .file _ => []
  | .directory es => es

def child? (name : String) (t : FileTree) : Option FileTree := Json.field? name t.entries

def at? : List String → FileTree → Option FileTree
  | [], t => some t
  | name :: rest, t => (t.child? name).bind (at? rest)

/-- Puts a tree at the end of a path of names; directories on the way are made. -/
def put (new : FileTree) : List String → FileTree → FileTree
  | [], _ => new
  | name :: rest, t =>
    .directory (Json.setField name (put new rest ((t.child? name).getD empty)) t.entries)

def remove : List String → FileTree → FileTree
  | [], t => t
  | [name], t => .directory (t.entries.filter fun e => e.1 ≠ name)
  | name :: rest, t =>
    match t.child? name with
    | none => t
    | some below => .directory (Json.setField name (remove rest below) t.entries)

mutual

/-- The names that lead to everything below a tree. -/
def namesBelow : FileTree → List (List String)
  | .file _ => []
  | .directory es => entryNames es

def entryNames : List (String × FileTree) → List (List String)
  | [] => []
  | (name, t) :: rest => [name] :: (namesBelow t).map (name :: ·) ++ entryNames rest

end

end FileTree
end TelemetryCheck
