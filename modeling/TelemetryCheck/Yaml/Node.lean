import TelemetryCheck.Yaml.Layout
import TelemetryCheck.Yaml.Tag

/-!
# Nodes

The tree that the tokens of a document make up. Each function of the grammar calls others only
after it took a token or to read what it must begin with, so the number of tokens bounds the
recursion.
-/

namespace TelemetryCheck
namespace Yaml

/-- A node may be named by an anchor; a reference stands for the node with that name, which may be a
node around the reference. -/
inductive Node
  | reference (name : String)
  | scalar (anchor : Option String) (tag : Tag) (text : String)
  | sequence (anchor : Option String) (tag : Tag) (items : List Node)
  | mapping (anchor : Option String) (tag : Tag) (entries : List (Node × Node))

namespace Node

/-- What stands where nothing is written. -/
def empty : Node := .scalar none .null ""

structure Progress where
  tokens : List Token
  anchors : List String := []
  handles : List (String × String) := Tag.handles

abbrev Parse := StateT Progress (Except Problem)

def malformed {α : Type} : Parse α := throw .malformed

def peek : Parse Token := do
  match (← get).tokens with
  | [] => return .streamEnd
  | .broken p :: _ => throw p
  | t :: _ => return t

def advance : Parse Unit := modify fun s => { s with tokens := s.tokens.tail }

def accept (t : Token) : Parse Bool := do
  if (← peek) = t then
    advance
    return true
  else return false

def takeAnchor : Parse (Option String) := do
  match ← peek with
  | .anchor name =>
    advance
    return some name
  | _ => return none

def takeTag : Parse (Option String) := do
  match ← peek with
  | .tag name =>
    advance
    match name.handle with
    | none => return some name.suffix
    | some handle =>
      match (← get).handles.lookup handle with
      | some expansion => return some (expansion ++ name.suffix)
      | none => malformed
  | _ => return none

/-- An anchor and a tag, in either order. -/
def properties : Parse (Option String × Option String) := do
  match ← takeAnchor with
  | some anchor => return (some anchor, ← takeTag)
  | none =>
    match ← takeTag with
    | some tag => return (← takeAnchor, some tag)
    | none => return (none, none)

/-- Each anchor names one node. -/
def declare (anchor : Option String) : Parse Unit := do
  match anchor with
  | none => return ()
  | some name =>
    if (← get).anchors.contains name then malformed
    else modify fun s => { s with anchors := name :: s.anchors }

/-- A tag that is nothing but a sign leaves the kind open. -/
def given? (tag : Option String) : Option Tag :=
  match tag with
  | none => none
  | some name => if name = "!" then none else some (Tag.ofName name)

def scalarTag (tag : Option String) (isPlain : Bool) (text : String) : Tag :=
  match given? tag with
  | some t => t
  | none => if isPlain || tag.isSome then Tag.ofPlain text else .text

def isAny (stops : List Token) : Parse Bool := return stops.contains (← peek)

def head (anchor tag : Option String) (default : Tag) : Parse (Option String × Tag) := do
  declare anchor
  return (anchor, (given? tag).getD default)

mutual

/-- A node; in a block, blocks may follow, and where it is the value of a key, a sequence that is
not indented further. -/
def node (inBlock unindented : Bool) : Nat → Parse Node
  | 0 => malformed
  | fuel + 1 => do
    match ← peek with
    | .reference name =>
      advance
      if (← get).anchors.contains name then return .reference name else malformed
    | _ =>
      let (anchor, tag) ← properties
      match ← peek with
      | .scalar text isPlain =>
        advance
        declare anchor
        return .scalar anchor (scalarTag tag isPlain text) text
      | .flowSequence =>
        let (anchor, tag) ← head anchor tag .sequence
        advance
        return .sequence anchor tag (← flowItems true fuel)
      | .flowMapping =>
        let (anchor, tag) ← head anchor tag .mapping
        advance
        return .mapping anchor tag (← flowEntries true fuel)
      | next =>
        if next = .entry && unindented then
          let (anchor, tag) ← head anchor tag .sequence
          return .sequence anchor tag (← unindentedItems fuel)
        else if next = .blockSequence && inBlock then
          let (anchor, tag) ← head anchor tag .sequence
          advance
          return .sequence anchor tag (← blockItems fuel)
        else if next = .blockMapping && inBlock then
          let (anchor, tag) ← head anchor tag .mapping
          advance
          return .mapping anchor tag (← blockEntries fuel)
        else if anchor.isSome || tag.isSome then
          declare anchor
          return .scalar anchor (scalarTag tag (tag.isNone) "") ""
        else malformed

/-- A node, or nothing before one of the tokens that may follow it. -/
def nodeBefore (inBlock unindented : Bool) (stops : List Token) : Nat → Parse Node
  | 0 => malformed
  | fuel + 1 => do
    if ← isAny stops then return empty else node inBlock unindented fuel

def blockItems : Nat → Parse (List Node)
  | 0 => malformed
  | fuel + 1 => do
    if ← accept .entry then
      let item ← nodeBefore true false [.entry, .blockEnd] fuel
      return item :: (← blockItems fuel)
    else if ← accept .blockEnd then return []
    else malformed

def unindentedItems : Nat → Parse (List Node)
  | 0 => malformed
  | fuel + 1 => do
    if ← accept .entry then
      let item ← nodeBefore true false [.entry, .key, .value, .blockEnd] fuel
      return item :: (← unindentedItems fuel)
    else return []

/-- The entries of a block; a key may come without a value. -/
def blockEntries : Nat → Parse (List (Node × Node))
  | 0 => malformed
  | fuel + 1 => do
    let stops := [.key, .value, .blockEnd]
    if ← accept .key then
      let key ← nodeBefore true true stops fuel
      let value ← if ← accept .value then nodeBefore true true stops fuel else pure empty
      return (key, value) :: (← blockEntries fuel)
    else if ← accept .blockEnd then return []
    else malformed

/-- The items between square brackets; an item may be a mapping of one entry without brackets. -/
def flowItems (first : Bool) : Nat → Parse (List Node)
  | 0 => malformed
  | fuel + 1 => do
    if ← accept .flowSequenceEnd then return []
    else if !first && !(← accept .comma) then malformed
    else if ← accept .key then
      let stops := [.comma, .flowSequenceEnd]
      let key ← nodeBefore false false (.value :: stops) fuel
      let value ← if ← accept .value then nodeBefore false false stops fuel else pure empty
      return .mapping none .mapping [(key, value)] :: (← flowItems false fuel)
    else if ← accept .flowSequenceEnd then return []
    else
      let item ← node false false fuel
      return item :: (← flowItems false fuel)

/-- The entries between braces; a value may be missing. -/
def flowEntries (first : Bool) : Nat → Parse (List (Node × Node))
  | 0 => malformed
  | fuel + 1 => do
    if ← accept .flowMappingEnd then return []
    else if !first && !(← accept .comma) then malformed
    else if ← accept .key then
      let stops := [.comma, .flowMappingEnd]
      let key ← nodeBefore false false (.value :: stops) fuel
      let value ← if ← accept .value then nodeBefore false false stops fuel else pure empty
      return (key, value) :: (← flowEntries false fuel)
    else if ← accept .flowMappingEnd then return []
    else
      let key ← node false false fuel
      return (key, empty) :: (← flowEntries false fuel)

end

/-- The directives before a document: the version may be given once, each handle too. -/
def directives (versioned : Bool) (own : List (String × String)) : Nat → Parse Unit
  | 0 => malformed
  | fuel + 1 => do
    match ← peek with
    | .directive d =>
      advance
      match d with
      | .version major _ =>
        if versioned || major != 1 then malformed else directives true own fuel
      | .tag handle expansion =>
        if (own.lookup handle).isSome then malformed
        else directives versioned ((handle, expansion) :: own) fuel
      | .other => directives versioned own fuel
    | _ => modify fun s => { s with handles := own ++ Tag.handles }

def isDirective : Token → Bool
  | .directive _ => true
  | _ => false

def skipEnds : Nat → Parse Unit
  | 0 => malformed
  | fuel + 1 => do
    if ← accept .documentEnd then skipEnds fuel

/-- The document of a text that holds at most one. -/
def document (fuel : Nat) : Parse (Option Node) := do
  let first ← peek
  if first = .streamEnd then return none
  else
    let root ← if isDirective first || first = .documentStart then do
        directives false [] fuel
        if !(← accept .documentStart) then malformed
        else if isDirective (← peek) then pure empty
        else nodeBefore true false [.documentStart, .documentEnd, .streamEnd] fuel
      else node true false fuel
    skipEnds fuel
    if (← peek) = .streamEnd then return some root else malformed

def ofTokens (tokens : List Token) : Except Problem (Option Node) :=
  match (document (3 * tokens.length + 3)).run { tokens } with
  | .ok (root, _) => .ok root
  | .error p => .error p

end Node
end Yaml
end TelemetryCheck
