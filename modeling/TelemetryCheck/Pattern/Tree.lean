import TelemetryCheck.Decimal.Numeral

/-!
# Pattern trees

What a regular expression says once it is read: characters, sets, anchors, alternatives, groups,
repeats and assertions. Characters are code points, since an escape may name a code point that is
no character.
-/

namespace TelemetryCheck
namespace Pattern

inductive Flag
  | ignoreCase | multiline | dotAll | verbose | ascii | unicode | template
  deriving Repr, DecidableEq

abbrev Flags := List Flag

/-- The flags inside a group: naming one alphabet replaces the other. -/
def combineFlags (flags add del : Flags) : Flags :=
  let kept :=
    if add.contains .ascii || add.contains .unicode then
      flags.filter fun f => f ≠ .ascii ∧ f ≠ .unicode
    else flags
  (kept ++ add).filter fun f => !del.contains f

inductive Anchor
  | lineStart | lineEnd | textStart | textEnd | wordBoundary | noWordBoundary
  deriving Repr, DecidableEq

inductive CharKind
  | digit | noDigit | space | noSpace | word | noWord
  deriving Repr, DecidableEq

inductive SetItem
  | code (n : Nat)
  | range (first last : Nat)
  | kind (k : CharKind)
  deriving Repr, DecidableEq

inductive RepeatMode
  | greedy | lazy | possessive
  deriving Repr, DecidableEq

inductive Node
  | code (n : Nat)
  | notCode (n : Nat)
  | any
  | set (negated : Bool) (items : List SetItem)
  | anchor (a : Anchor)
  | alternatives (branches : List (List Node))
  | group (index : Option Nat) (add del : Flags) (body : List Node)
  | many (mode : RepeatMode) (least : Nat) (most : Option Nat) (body : List Node)
  | atomic (body : List Node)
  | ahead (negated : Bool) (body : List Node)
  | behind (negated : Bool) (body : List Node)
  | backref (group : Nat)
  | conditional (group : Nat) (yes no : List Node)
  deriving Repr

/-- Widths are counted up to here. -/
def maxWidth : Nat := Nat.pow 2 64

/-- The least and the greatest number of characters that a part can match. -/
structure Width where
  least : Nat
  most : Nat
  deriving Repr

def Width.one : Width := ⟨1, 1⟩

def Width.zero : Width := ⟨0, 0⟩

def Width.add (a b : Width) : Width := ⟨a.least + b.least, a.most + b.most⟩

def Width.cap (w : Width) : Width := ⟨min w.least maxWidth, min w.most maxWidth⟩

def Width.either (a b : Width) : Width := ⟨min a.least b.least, max a.most b.most⟩

def Width.times (w : Width) (least : Nat) (most : Option Nat) : Width :=
  ⟨w.least * least, match most with
    | none => if w.most = 0 then 0 else maxWidth
    | some m => w.most * m⟩

mutual

/-- The width of one part, given the widths of the groups that are complete. -/
def nodeWidth (groups : Array (Option Width)) : Node → Width
  | .code _ | .notCode _ | .any | .set .. => .one
  | .anchor _ | .ahead .. | .behind .. => .zero
  | .alternatives branches => branchesWidth groups branches
  | .group _ _ _ body => seqWidth groups body
  | .many _ least most body => (seqWidth groups body).times least most
  | .atomic body => seqWidth groups body
  | .backref n => ((groups[n]?).join).getD .zero
  | .conditional _ yes no => (seqWidth groups yes).either (seqWidth groups no)

def seqWidth (groups : Array (Option Width)) : List Node → Width
  | [] => .zero
  | node :: rest => ((nodeWidth groups node).add (seqWidth groups rest)).cap

def branchesWidth (groups : Array (Option Width)) : List (List Node) → Width
  | [] => ⟨maxWidth, 0⟩
  | branch :: rest => (seqWidth groups branch).either (branchesWidth groups rest)

end

inductive CompileError
  | invalid (reason : String) (position : Option Nat)
  | tooManyRepeats
  | numberTooLong (digits : Nat)
  | clashingAlphabets
  deriving Repr, DecidableEq

namespace CompileError

def newlinesBefore (position : Nat) (pattern : List Char) : Nat :=
  (pattern.take position).count '\n'

/-- Characters since the last line feed before a position, counted from one. -/
def column (position : Nat) (pattern : List Char) : Nat :=
  ((pattern.take position).reverse.takeWhile (· ≠ '\n')).length + 1

/-- The reason with its place: the position, and line and column in a pattern of several lines. -/
def text (pattern : String) : CompileError → String
  | .tooManyRepeats => "the repetition number is too large"
  | .numberTooLong digits => Decimal.tooLongText digits
  | .clashingAlphabets => "ASCII and UNICODE flags are incompatible"
  | .invalid reason none => reason
  | .invalid reason (some position) =>
    let chars := pattern.toList
    let place := reason ++ " at position " ++ toString position
    if chars.contains '\n' then
      place ++ " (line " ++ toString (newlinesBefore position chars + 1) ++ ", column " ++
        toString (column position chars) ++ ")"
    else place

end CompileError
end Pattern
end TelemetryCheck
