import TelemetryCheck.Pattern.Reader
import TelemetryCheck.Text.Blank
import TelemetryCheck.Text.Casing
import TelemetryCheck.Text.Digit

/-!
# Searching

Matching tries the ways through a pattern in order and takes the first that leads to a match of
everything after it; the rest of the pattern is passed along as a function. Groups keep the place
where they last started and the place where they last ended.
-/

namespace TelemetryCheck
namespace Pattern

structure MatchState where
  position : Nat
  starts : Array (Option Nat)
  ends : Array (Option Nat)

abbrev Continuation := MatchState → Option MatchState

def asciiLower (n : Nat) : Nat := if 65 ≤ n ∧ n ≤ 90 then n + 32 else n

def lowerCode (n : Nat) : Nat :=
  if n < 128 then asciiLower n else Text.shiftCase Text.lowerShifts n

def upperCode (n : Nat) : Nat := (Text.upperChar (Char.ofNat n)).toNat

/-- Lower case letters that share their upper case with another one. -/
def sameUpperCase : List (List Nat) :=
  [[0x69, 0x131], [0x73, 0x17F], [0xB5, 0x3BC], [0x345, 0x3B9, 0x1FBE], [0x390, 0x1FD3],
    [0x3B0, 0x1FE3], [0x3B2, 0x3D0], [0x3B5, 0x3F5], [0x3B8, 0x3D1], [0x3BA, 0x3F0],
    [0x3C0, 0x3D6], [0x3C1, 0x3F1], [0x3C2, 0x3C3], [0x3C6, 0x3D5], [0x432, 0x1C80],
    [0x434, 0x1C81], [0x43E, 0x1C82], [0x441, 0x1C83], [0x442, 0x1C84, 0x1C85], [0x44A, 0x1C86],
    [0x463, 0x1C87], [0x1C88, 0xA64B], [0x1E61, 0x1E9B], [0xFB05, 0xFB06]]

/-- The lower case letters that count as the same as one of them, itself included. -/
def equivalents (n : Nat) : List Nat := (sameUpperCase.find? fun c => c.contains n).getD [n]

/-- The highest code point whose case is looked at in sets. -/
def basicPlaneEnd : Nat := 0xFFFF

def hasKind (ascii : Bool) (n : Nat) : CharKind → Bool
  | .digit => digit
  | .noDigit => !digit
  | .space => space
  | .noSpace => !space
  | .word => word
  | .noWord => !word
where
  c : Char := Char.ofNat n
  digit : Bool := if ascii then isAsciiDigit c else Text.isDigit c
  space : Bool := if ascii then isVerboseBlank c else Text.isBlank c
  word : Bool := if ascii then isAsciiDigit c || isAsciiLetter c || c == '_' else Text.isWordChar c

/-- How characters are compared at a place of the pattern. -/
inductive Comparison
  | exact
  | asciiFold
  | fold
  deriving Repr, DecidableEq

def comparison (flags : Flags) : Comparison :=
  if !flags.contains .ignoreCase then .exact
  else if flags.contains .unicode then .fold
  else .asciiFold

def Comparison.lower : Comparison → Nat → Nat
  | .exact, n => n
  | .asciiFold, n => asciiLower n
  | .fold, n => lowerCode n

/-- Whether the character `n` of the text counts as the character `m` of the pattern. -/
def Comparison.same (how : Comparison) (m n : Nat) : Bool :=
  match how with
  | .exact => m == n
  | .asciiFold => asciiLower m == asciiLower n
  | .fold => (equivalents (lowerCode m)).contains (lowerCode n)

/-- The characters whose lower case is equivalent to a lower case character. -/
def Comparison.sources (how : Comparison) (n : Nat) : List Nat :=
  match how with
  | .exact => [n]
  | .asciiFold => if 97 ≤ n ∧ n ≤ 122 then [n, n - 32] else [n]
  | .fold => (equivalents n).flatMap Text.lowerSources

def inRange (first last n : Nat) : Bool := first ≤ n && n ≤ last

/-- Whether a set item holds a character. Where case is ignored, the character comes in lower
case; beyond the basic plane single characters of a set are compared as they stand. -/
def SetItem.holds (how : Comparison) (ascii : Bool) (n : Nat) : SetItem → Bool
  | .kind k => hasKind ascii n k
  | .code m =>
    if how = .exact ∨ basicPlaneEnd < m then m == n else how.same m n
  | .range first last =>
    if how = .exact then inRange first last n
    else
      ((how.sources n).any fun m => inRange first (min last basicPlaneEnd) m) ||
        (basicPlaneEnd < last && (inRange first last n || inRange first last (upperCode n)))

/-- The text that is searched, as code points. -/
abbrev Subject := Array Nat

/-- What stays the same during a search: the text and the widths of the groups. -/
structure Scene where
  subject : Subject
  groups : Array (Option Width)

def isNewline (n : Nat) : Bool := n == 10

/-- Whether a part that takes exactly one character accepts it; none for other parts. -/
def Node.accepts? (flags : Flags) (n : Nat) : Node → Option Bool
  | .code m => some ((comparison flags).same m n)
  | .notCode m => some (!(comparison flags).same m n)
  | .any => some (flags.contains .dotAll || !isNewline n)
  | .set negated items =>
    let how := comparison flags
    let ascii := !flags.contains .unicode
    some ((items.any fun item => item.holds how ascii (how.lower n)) != negated)
  | _ => none

/-- The only part of a sequence, if it takes exactly one character. -/
def singlePart? : List Node → Option Node
  | [.code m] => some (.code m)
  | [.notCode m] => some (.notCode m)
  | [.any] => some .any
  | [.set negated items] => some (.set negated items)
  | _ => none

def wordAt (ascii : Bool) (subject : Subject) (position : Nat) : Bool :=
  match subject[position]? with
  | some n => hasKind ascii n .word
  | none => false

def wordBefore (ascii : Bool) (subject : Subject) : Nat → Bool
  | 0 => false
  | position + 1 => wordAt ascii subject position

def atAnchor (flags : Flags) (subject : Subject) (position : Nat) (a : Anchor) : Bool :=
  let ascii := !flags.contains .unicode
  let size := subject.size
  let afterNewline := position != 0 && subject[position - 1]? == some 10
  let boundary := wordBefore ascii subject position != wordAt ascii subject position
  match a with
  | .textStart => position == 0
  | .textEnd => position == size
  | .lineStart => position == 0 || (flags.contains .multiline && afterNewline)
  | .lineEnd =>
    let newline := subject[position]? == some 10
    position == size || (newline && (flags.contains .multiline || position + 1 == size))
  | .wordBoundary => size != 0 && boundary
  | .noWordBoundary => size != 0 && !boundary

/-- The span that a group last matched. -/
def MatchState.span? (s : MatchState) (group : Nat) : Option (Nat × Nat) :=
  match (s.starts[group]?).join, (s.ends[group]?).join with
  | some first, some last => if first ≤ last then some (first, last) else none
  | _, _ => none

/-- Whether the text repeats `length` characters from `first` at `position`. -/
def sameText (how : Comparison) (subject : Subject) (first position : Nat) : Nat → Bool
  | 0 => true
  | length + 1 =>
    match subject[first]?, subject[position]? with
    | some a, some b =>
      how.lower a == how.lower b && sameText how subject (first + 1) (position + 1) length
    | _, _ => false

def setAt (a : Array (Option Nat)) (group position : Nat) : Array (Option Nat) :=
  a.setIfInBounds group (some position)

def times (step : MatchState → Continuation → Option MatchState) :
    Nat → Continuation → Continuation
  | 0, k, s => k s
  | n + 1, k, s => step s (times step n k)

/-- Whether one more round is allowed after `count` of them. -/
def belowMost (most : Option Nat) (count : Nat) : Bool :=
  match most with
  | none => true
  | some m => count < m

/-- Further rounds, as many as possible first. A round that would start where the one before it
started is not tried, so their number is bounded by the length of the text. -/
def greedyRounds (step : MatchState → Continuation → Option MatchState) (k : Continuation)
    (most : Option Nat) : Nat → Nat → Option Nat → MatchState → Option MatchState
  | 0, _, _, s => k s
  | fuel + 1, count, last, s =>
    if belowMost most count && last != some s.position then
      match step s (greedyRounds step k most fuel (count + 1) (some s.position)) with
      | some r => some r
      | none => k s
    else k s

/-- Further rounds, as few as possible first. -/
def lazyRounds (step : MatchState → Continuation → Option MatchState) (k : Continuation)
    (most : Option Nat) : Nat → Nat → Option Nat → MatchState → Option MatchState
  | 0, _, _, s => k s
  | fuel + 1, count, last, s =>
    match k s with
    | some r => some r
    | none =>
      if belowMost most count && last != some s.position then
        step s (lazyRounds step k most fuel (count + 1) (some s.position))
      else none

/-- Rounds that are not taken back: `least` of them, then as many as possible. -/
def possessiveRounds (step : MatchState → Continuation → Option MatchState) (least : Nat)
    (most : Option Nat) : Nat → Nat → Option Nat → MatchState → Option MatchState
  | 0, _, _, s => some s
  | fuel + 1, count, last, s =>
    if count < least then
      match step s some with
      | some r => possessiveRounds step least most fuel (count + 1) none r
      | none => none
    else if belowMost most count && last != some s.position then
      match step s some with
      | some r => possessiveRounds step least most fuel (count + 1) (some s.position) r
      | none => some s
    else some s

/-- How many characters from `position` on a single-character part accepts, at most `limit`. -/
def runLength (accepts : Nat → Bool) (subject : Subject) (position : Nat) : Nat → Nat → Nat
  | 0, done => done
  | limit + 1, done =>
    match subject[position]? with
    | some n => if accepts n then runLength accepts subject (position + 1) limit (done + 1) else done
    | none => done

/-- Tries the lengths from `least + extra` down to `least`. -/
def longestFirst (k : Continuation) (s : MatchState) (least : Nat) : Nat → Option MatchState
  | 0 => k { s with position := s.position + least }
  | extra + 1 =>
    match k { s with position := s.position + least + extra + 1 } with
    | some r => some r
    | none => longestFirst k s least extra

/-- A repeat of a part that takes one character, as many as possible first. -/
def singleRounds (accepts : Nat → Bool) (subject : Subject) (least : Nat) (most : Option Nat)
    (s : MatchState) (k : Continuation) : Option MatchState :=
  let room := subject.size - s.position
  let run := runLength accepts subject s.position (match most with
    | none => room
    | some m => min m room) 0
  if run < least then none else longestFirst k s least (run - least)

mutual

def matchNode (scene : Scene) (flags : Flags) :
    Node → MatchState → Continuation → Option MatchState
  | .code m, s, k => matchSingle (.code m) s k
  | .notCode m, s, k => matchSingle (.notCode m) s k
  | .any, s, k => matchSingle .any s k
  | .set negated items, s, k => matchSingle (.set negated items) s k
  | .anchor a, s, k => if atAnchor flags scene.subject s.position a then k s else none
  | .alternatives branches, s, k => matchBranches scene flags branches s k
  | .group none add del body, s, k => matchSeq scene (combineFlags flags add del) body s k
  | .group (some n) add del body, s, k =>
    matchSeq scene (combineFlags flags add del) body
      { s with starts := setAt s.starts n s.position }
      fun s => k { s with ends := setAt s.ends n s.position }
  | .many mode least most body, s, k =>
    let fuel := scene.subject.size + 2
    let step := fun s k => matchSeq scene flags body s k
    match mode with
    | .greedy =>
      match singlePart? body with
      | some node =>
        singleRounds (fun n => (node.accepts? flags n).getD false) scene.subject least most s k
      | none => times step least (greedyRounds step k most fuel least none) s
    | .lazy => times step least (lazyRounds step k most fuel least none) s
    | .possessive =>
      match possessiveRounds step least most (fuel + least) 0 none s with
      | some r => k r
      | none => none
  | .atomic body, s, k =>
    match matchSeq scene flags body s some with
    | some r => k r
    | none => none
  | .ahead negated body, s, k =>
    match matchSeq scene flags body s some, negated with
    | some r, false => k { r with position := s.position }
    | none, true => k s
    | _, _ => none
  | .behind negated body, s, k =>
    let width := (seqWidth scene.groups body).least
    if s.position < width then if negated then k s else none
    else
      match matchSeq scene flags body { s with position := s.position - width } some, negated with
      | some r, false => k { r with position := s.position }
      | none, true => k s
      | _, _ => none
  | .backref n, s, k =>
    match s.span? n with
    | none => none
    | some (first, last) =>
      if sameText (comparison flags) scene.subject first s.position (last - first) then
        k { s with position := s.position + (last - first) }
      else none
  | .conditional n yes no, s, k =>
    if (s.span? n).isSome then matchSeq scene flags yes s k else matchSeq scene flags no s k
where
  matchSingle (node : Node) (s : MatchState) (k : Continuation) : Option MatchState :=
    match scene.subject[s.position]? with
    | some n =>
      if (node.accepts? flags n).getD false then k { s with position := s.position + 1 } else none
    | none => none

def matchSeq (scene : Scene) (flags : Flags) :
    List Node → MatchState → Continuation → Option MatchState
  | [], s, k => k s
  | node :: rest, s, k =>
    matchNode scene flags node s fun s => matchSeq scene flags rest s k

def matchBranches (scene : Scene) (flags : Flags) :
    List (List Node) → MatchState → Continuation → Option MatchState
  | [], _, _ => none
  | branch :: rest, s, k =>
    match matchSeq scene flags branch s k with
    | some r => some r
    | none => matchBranches scene flags rest s k

end

namespace Compiled

def startState (p : Compiled) (position : Nat) : MatchState :=
  ⟨position, Array.replicate p.groups.size none, Array.replicate p.groups.size none⟩

def matchesFrom (p : Compiled) (subject : Subject) (position : Nat) : Bool :=
  (matchSeq ⟨subject, p.groups⟩ p.flags p.body (p.startState position) some).isSome

def searchFrom (p : Compiled) (subject : Subject) : Nat → Nat → Bool
  | 0, _ => false
  | tries + 1, position => p.matchesFrom subject position || searchFrom p subject tries (position + 1)

def search (p : Compiled) (text : String) : Bool :=
  let subject := (text.toList.map Char.toNat).toArray
  p.searchFrom subject (subject.size + 1) 0

end Compiled
end Pattern
end TelemetryCheck
