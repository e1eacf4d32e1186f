import TelemetryCheck.Yaml.Node
import TelemetryCheck.Yaml.Scalar
import TelemetryCheck.Text.Line

/-!
# From nodes to data

Of several problems in a document the one nearest to its root counts, and of several at one depth
the first.

A node is read once, with what its anchors stand for. A reference inside the node that it names makes
data that contains itself; such data is unrolled a number of times, which is deeper than any
definition looks.
-/

namespace TelemetryCheck
namespace Yaml

/-- A problem, and how far below a node it is. -/
structure Misfit where
  depth : Nat
  problem : Problem

abbrev Outcome (α : Type) := Except Misfit α

namespace Outcome

variable {α β γ : Type}

def unfit (depth : Nat) : Outcome α := .error ⟨depth, .malformed⟩

def below : Outcome α → Outcome α
  | .ok a => .ok a
  | .error m => .error { m with depth := m.depth + 1 }

/-- Both, or the problem nearer to the root, the first one if both are as near. -/
def both (f : α → β → γ) : Outcome α → Outcome β → Outcome γ
  | .ok a, .ok b => .ok (f a b)
  | .ok _, .error m => .error m
  | .error m, .ok _ => .error m
  | .error m, .error n => .error (if n.depth < m.depth then n else m)

def all : List (Outcome α) → Outcome (List α)
  | [] => .ok []
  | a :: rest => both (· :: ·) a (all rest)

end Outcome

/-- What a mapping holds, merged mappings first. -/
structure Entries where
  /-- Only mappings and lists of mappings are merged. -/
  mergeable : Bool := true
  pairs : Outcome (List (Data × Data)) := .ok []

namespace Entries

def append (a b : Entries) : Entries :=
  ⟨a.mergeable && b.mergeable, Outcome.both (· ++ ·) a.pairs b.pairs⟩

def unmergeable : Entries := ⟨false, .ok []⟩

/-- Earlier mappings of a list win over later ones, so they come last. -/
def ofList (items : List (Option Entries)) : Entries :=
  items.foldl (fun after item => append (item.getD unmergeable) after) {}

end Entries

/-- What is known of a node once it was read. -/
structure Reading where
  tag : Tag
  value : Outcome Data
  /-- The text of a scalar, or of the value of a mapping as a whole. -/
  text : Option String := none
  /-- The entries of a mapping. -/
  entries : Option Entries := none
  /-- The entry of a mapping that has exactly one. -/
  single : Option (Outcome (Data × Data)) := none
  /-- The items of a sequence. -/
  items : Option (List (Option Entries)) := none

def Reading.unfit : Reading := { tag := .unknown, value := Outcome.unfit 0 }

abbrev Known := List (String × Reading)

namespace Reading

/-- Numbers and truth values with the same value are one key. -/
inductive KeyValue
  | nothing
  | text (s : String)
  | integer (i : Int)
  | fraction (x : Float)
  | bytes (b : List UInt8)
  | date (d : Calendar.Date)
  | moment (m : Calendar.Moment)
  | other

def keyValue : Data → KeyValue
  | .null => .nothing
  | .text s => .text s
  | .bool b => .integer (if b then 1 else 0)
  | .int i => .integer i
  | .float x =>
    match Decimal.integer? x with
    | some i => .integer i
    | none => .fraction x
  | .binary b => .bytes b
  | .date d => .date d
  | .moment m => .moment m
  | _ => .other

def sameKey (a b : Data) : Bool :=
  match keyValue a, keyValue b with
  | .nothing, .nothing => true
  | .text s, .text t => s == t
  | .integer i, .integer j => i == j
  | .fraction x, .fraction y => x == y || x.isNaN && y.isNaN
  | .bytes x, .bytes y => x == y
  | .date x, .date y => decide (x = y)
  | .moment x, .moment y => decide (x = y)
  | _, _ => false

/-- Puts an entry in place: a key that is there keeps its place and its form. -/
def setEntry (key value : Data) : List (Data × Data) → List (Data × Data)
  | [] => [(key, value)]
  | (k, v) :: rest =>
    if sameKey k key then (k, value) :: rest else (k, v) :: setEntry key value rest

def table (pairs : List (Data × Data)) : List (Data × Data) :=
  pairs.foldl (fun done p => setEntry p.1 p.2 done) []

/-- Collections are no keys. -/
def asKey (key : Data) : Outcome Data :=
  match key with
  | .list _ | .set _ | .record _ => Outcome.unfit 1
  | _ => .ok key

/-- What a key stands for; the sign for the value as a whole is an ordinary text there. -/
def keyData (key : Reading) : Outcome Data :=
  if key.tag = .whole then
    match key.text with
    | some text => .ok (.text text)
    | none => Outcome.unfit 1
  else
    match key.value.below with
    | .ok k => asKey k
    | .error m => .error m

/-- What is merged into a mapping by a key that asks for it. -/
def mergedEntries (r : Reading) : Entries :=
  match r.entries, r.items with
  | some entries, _ => entries
  | none, some items => Entries.ofList items
  | none, none => Entries.unmergeable

def ownEntry (key value : Reading) : Entries :=
  ⟨true, (Outcome.both Prod.mk key.keyData value.value.below).map ([·])⟩

/-- The entries of a mapping: those that keys ask to merge, then its own. -/
def entriesOf (parts : List (Reading × Reading)) : Entries :=
  let (merges, own) := parts.partition fun p => p.1.tag = .merge
  (merges.map (mergedEntries ·.2) ++ own.map fun p => ownEntry p.1 p.2).foldl Entries.append {}

def scalarValue (tag : Tag) (text : String) : Outcome Data :=
  match tag with
  | .sequence | .mapping | .set | .orderedPairs | .pairs => Outcome.unfit 1
  | _ =>
    match Scalar.value tag text with
    | .ok d => .ok d
    | .error p => .error ⟨0, p⟩

def pairData (p : Data × Data) : Data := .tuple [p.1, p.2]

def sequenceValue (tag : Tag) (items : List Reading) : Outcome Data :=
  match tag with
  | .sequence => (Outcome.all (items.map (·.value.below))).map .list
  | .orderedPairs | .pairs =>
    (Outcome.all (items.map (·.single.getD (Outcome.unfit 1)))).map fun ps =>
      .list (ps.map pairData)
  | .mapping | .set => Outcome.unfit 1
  | _ => Outcome.unfit 0

def mappingValue (tag : Tag) (entries : Entries) (text : Option String) : Outcome Data :=
  let pairs := if entries.mergeable then entries.pairs.map table else Outcome.unfit 1
  match tag with
  | .mapping => pairs.map .record
  | .set => pairs.map fun ps => .set (ps.map (·.1))
  | .sequence | .orderedPairs | .pairs => Outcome.unfit 1
  | _ =>
    match text with
    | some t => scalarValue tag t
    | none => Outcome.unfit 0

def ofScalar (tag : Tag) (text : String) : Reading :=
  { tag, value := scalarValue tag text, text := some text }

def ofSequence (tag : Tag) (items : List Reading) : Reading :=
  { tag, value := sequenceValue tag items, items := some (items.map (·.entries)) }

def ofMapping (tag : Tag) (parts : List (Reading × Reading)) : Reading :=
  let entries := entriesOf parts
  let text := (parts.find? fun p => p.1.tag = .whole).bind (·.2.text)
  let single := match parts with
    | [(k, v)] => some (Outcome.both Prod.mk k.value.below v.value.below)
    | _ => none
  { tag, value := mappingValue tag entries text, text, entries := some entries, single }

/-- What is known of a sequence or a mapping while it is being read. -/
def unreadSequence (tag : Tag) : Reading := { tag, value := .ok (.list []), items := some [] }

def unreadMapping (tag : Tag) : Reading :=
  { tag, value := .ok (if tag = .set then .set [] else .record []), entries := some {} }

def note (anchor : Option String) (r : Reading) (known : Known) : Known :=
  match anchor with
  | some name => (name, r) :: known
  | none => known

/-- How often data that contains itself is unrolled. -/
def unrolling : Nat := 10

/-- Reads a collection by `pass`. If its contents mention its own anchor, that stands for what
the pass before made of them. -/
def settle (anchor : Option String) (mentioned : Bool) (unread : Reading)
    (pass : Known → Reading × Known) (known : Known) : Reading × Known :=
  let first := pass (note anchor unread known)
  let round := fun r : Reading × Known =>
    pass (note anchor { unread with value := r.1.value } known)
  let last := if anchor.isSome && mentioned then Nat.repeat round unrolling first else first
  (last.1, note anchor last.1 last.2)

end Reading

namespace Node

mutual

def mentions (name : String) : Node → Bool
  | .reference a => a == name
  | .scalar .. => false
  | .sequence _ _ items => mentionsItems name items
  | .mapping _ _ entries => mentionsEntries name entries

def mentionsItems (name : String) : List Node → Bool
  | [] => false
  | item :: rest => mentions name item || mentionsItems name rest

def mentionsEntries (name : String) : List (Node × Node) → Bool
  | [] => false
  | (key, value) :: rest => mentions name key || mentions name value || mentionsEntries name rest

end

mutual

/-- Reads a node in the order of the text; each anchor adds to what is known. -/
def read (known : Known) : Node → Reading × Known
  | .reference name => ((known.lookup name).getD .unfit, known)
  | .scalar anchor tag text =>
    let r := Reading.ofScalar tag text
    (r, Reading.note anchor r known)
  | .sequence anchor tag items =>
    Reading.settle anchor (anchor.any fun name => mentionsItems name items)
      (Reading.unreadSequence tag)
      (fun known =>
        let (readings, known) := readItems known items
        (Reading.ofSequence tag readings, known))
      known
  | .mapping anchor tag entries =>
    Reading.settle anchor (anchor.any fun name => mentionsEntries name entries)
      (Reading.unreadMapping tag)
      (fun known =>
        let (readings, known) := readEntries known entries
        (Reading.ofMapping tag readings, known))
      known

def readItems (known : Known) : List Node → List Reading × Known
  | [] => ([], known)
  | item :: rest =>
    let (r, known) := read known item
    let (more, known) := readItems known rest
    (r :: more, known)

def readEntries (known : Known) : List (Node × Node) → List (Reading × Reading) × Known
  | [] => ([], known)
  | (key, value) :: rest =>
    let (k, known) := read known key
    let (v, known) := read known value
    let (more, known) := readEntries known rest
    ((k, v) :: more, known)

end

def data (node : Node) : Except Problem Data :=
  match (read [] node).1.value with
  | .ok d => .ok d
  | .error m => .error m.problem

end Node

/-- The data that a text holds; a text without a document holds none. -/
def read (text : List Char) : Except Problem Data :=
  let chars := Text.unifyLineEnds text
  if !chars.all isAllowed then .error .malformed
  else
    match Node.ofTokens (tokens chars) with
    | .error p => .error p
    | .ok none => .ok .null
    | .ok (some root) => root.data

end Yaml
end TelemetryCheck
