import TelemetryCheck.Yaml.Block
import TelemetryCheck.Yaml.Plain
import TelemetryCheck.Yaml.Token

/-!
# Layout

How indentation and signs become tokens. A key need not be announced: what stands before a colon
is known to be a key only when the colon is reached, so each place where a key could have begun is
kept in mind for as long as the colon may still come, which is on the same line and within 1024
characters.
-/

namespace TelemetryCheck
namespace Yaml

/-- A place where a key could have begun. -/
structure KeyStart where
  /-- The number of tokens before it. -/
  token : Nat
  /-- Whether nothing but a key can stand there. -/
  required : Bool
  index : Nat
  line : Nat
  column : Nat

structure Layout where
  place : Place
  tokens : Array Token := #[]
  /-- The number of brackets that are open. -/
  depth : Nat := 0
  /-- The columns of the blocks that are open, the innermost first. -/
  indents : List Nat := []
  keysAllowed : Bool := true
  /-- By the number of brackets around them. -/
  keyStarts : List (Nat × KeyStart) := []
  finished : Bool := false

def maxKeyLength : Nat := 1024

def KeyStart.isStale (k : KeyStart) (p : Place) : Bool :=
  k.line != p.line || maxKeyLength < p.index - k.index

namespace Layout

abbrev Step := StateT Layout (Except Problem)

def malformed {α : Type} : Step α := throw .malformed

def scan {α : Type} (f : Scan α) : Step α := do
  let s ← get
  match f.run s.place with
  | .ok (a, place) =>
    set { s with place }
    return a
  | .error e => throw e

def push (t : Token) : Step Unit := modify fun s => { s with tokens := s.tokens.push t }

def insertAt (n : Nat) (t : Token) : Step Unit :=
  modify fun s => { s with tokens := s.tokens.insertIdxIfInBounds n t }

def allowKeys (allowed : Bool) : Step Unit := modify fun s => { s with keysAllowed := allowed }

def inBrackets : Step Bool := return (← get).depth != 0

def column : Step Nat := return (← get).place.column

/-- Forgets the key that could have begun between the same brackets. -/
def forgetKey : Step Unit := do
  let s ← get
  match s.keyStarts.lookup s.depth with
  | none => return ()
  | some k =>
    if k.required then malformed
    else set { s with keyStarts := s.keyStarts.filter (·.1 != s.depth) }

def forgetStaleKeys : Step Unit := do
  let s ← get
  let (stale, fresh) := s.keyStarts.partition fun p => p.2.isStale s.place
  if stale.any (·.2.required) then malformed else set { s with keyStarts := fresh }

/-- Keeps in mind that a key may begin here. -/
def noteKey : Step Unit := do
  if (← get).keysAllowed then
    forgetKey
    modify fun s =>
      let p := s.place
      let required := s.depth == 0 && s.indents.head? == some p.column
      { s with keyStarts := (s.depth, ⟨s.tokens.size, required, p.index, p.line, p.column⟩) ::
          s.keyStarts }

/-- Closes the blocks that are indented by `limit` columns or more. -/
def closeBlocks (limit : Nat) : Step Unit := do
  if !(← inBrackets) then
    modify fun s =>
      let closed := s.indents.takeWhile (limit ≤ ·)
      { s with
        indents := s.indents.drop closed.length
        tokens := s.tokens ++ (closed.map fun _ => Token.blockEnd).toArray }

def openBlock (column : Nat) : Step Bool := do
  let s ← get
  if s.indents.head?.all (· < column) then
    set { s with indents := column :: s.indents }
    return true
  else return false

/-- Goes over blanks and comments; a new line may begin with a key. -/
def skipBlanks : Nat → Scan Bool
  | 0 => return false
  | fuel + 1 => do
    if (← get).index = 0 && (← Scan.peek) = some byteOrderMark then Scan.skip 1
    let _ ← Scan.takeWhile (· == ' ')
    Scan.skipComment
    match ← Scan.takeBreak with
    | [] => return false
    | _ =>
      let _ ← skipBlanks fuel
      return true

def sign (t : Token) (length : Nat) : Step Unit := do
  scan (Scan.skip length)
  push t

def endText : Step Unit := do
  closeBlocks 0
  forgetKey
  modify fun s => { s with keysAllowed := false, keyStarts := [], finished := true }
  push .streamEnd

def directive : Step Unit := do
  closeBlocks 0
  forgetKey
  allowKeys false
  push (.directive (← scan Token.takeDirective))

def separator (t : Token) : Step Unit := do
  closeBlocks 0
  forgetKey
  allowKeys false
  sign t 3

def openBracket (t : Token) : Step Unit := do
  noteKey
  modify fun s => { s with depth := s.depth + 1, keysAllowed := true }
  sign t 1

def closeBracket (t : Token) : Step Unit := do
  forgetKey
  if (← get).depth = 0 then malformed
  else
    modify fun s => { s with depth := s.depth - 1, keysAllowed := false }
    sign t 1

def comma : Step Unit := do
  allowKeys true
  forgetKey
  sign .comma 1

/-- Opens a block at this column for what a sign at the beginning of a line announces. -/
def announce (block : Token) : Step Unit := do
  if !(← inBrackets) then
    if !(← get).keysAllowed then malformed
    else if ← openBlock (← column) then push block

def entry : Step Unit := do
  announce .blockSequence
  allowKeys true
  forgetKey
  sign .entry 1

def key : Step Unit := do
  announce .blockMapping
  allowKeys !(← inBrackets)
  forgetKey
  sign .key 1

/-- A colon: what could have been a key before it is one. -/
def value : Step Unit := do
  let s ← get
  match s.keyStarts.lookup s.depth with
  | some k =>
    set { s with keyStarts := s.keyStarts.filter (·.1 != s.depth) }
    insertAt k.token .key
    if !(← inBrackets) then
      if ← openBlock k.column then insertAt k.token .blockMapping
    allowKeys false
  | none =>
    announce .blockMapping
    allowKeys !(← inBrackets)
    forgetKey
  sign .value 1

/-- Something that may be the beginning of a key. -/
def keyPart (t : Scan Token) : Step Unit := do
  noteKey
  allowKeys false
  push (← scan t)

def scalar (isPlain : Bool) (chars : List Char) : Token :=
  .scalar (String.ofList chars) isPlain

def outerColumn : Step Nat := return (← get).indents.head?.elim 0 (· + 1)

def block (folded : Bool) : Step Unit := do
  allowKeys true
  forgetKey
  let outer ← outerColumn
  push (scalar false (← scan (Block.take folded outer)))

def plain : Step Unit := do
  noteKey
  allowKeys false
  let (chars, ended) ← scan (Plain.take (← inBrackets) (← outerColumn))
  allowKeys ended
  push (scalar true chars)

def isSign (c : Char) : Bool :=
  "-?:,[]\x7b\x7d#&*!|>'\"%@\x60".toList.contains c

/-- Whether a text without quotes can begin with `c`. -/
def beginsPlain (inBrackets : Bool) (c : Char) (next : Option Char) : Bool :=
  !(isGap c || isBreak c || isSign c) ||
    !endsToken next && (c == '-' || !inBrackets && (c == '?' || c == ':'))

def next : Step Unit := do
  if ← scan (do skipBlanks (← Scan.remaining)) then
    if !(← inBrackets) then allowKeys true
  forgetStaleKeys
  closeBlocks ((← column) + 1)
  let atMargin := (← column) = 0
  let separated ← scan Scan.atSeparator
  let brackets ← inBrackets
  match ← scan Scan.peek with
  | none => endText
  | some c =>
    let following ← scan (Scan.peekAt 1)
    if c = '%' && atMargin then directive
    else if c = '-' && atMargin && separated then separator .documentStart
    else if c = '.' && atMargin && separated then separator .documentEnd
    else if c = '[' then openBracket .flowSequence
    else if c = '\x7b' then openBracket .flowMapping
    else if c = ']' then closeBracket .flowSequenceEnd
    else if c = '\x7d' then closeBracket .flowMappingEnd
    else if c = ',' then comma
    else if c = '-' && endsToken following then entry
    else if c = '?' && (brackets || endsToken following) then key
    else if c = ':' && (brackets || endsToken following) then value
    else if c = '*' then keyPart (Token.reference <$> Token.takeAnchorName)
    else if c = '&' then keyPart (Token.anchor <$> Token.takeAnchorName)
    else if c = '!' then keyPart (Token.tag <$> Token.takeTagName)
    else if c = '|' && !brackets then block false
    else if c = '>' && !brackets then block true
    else if c = '\'' || c = '"' then keyPart (scalar false <$> Quoted.take c)
    else if beginsPlain brackets c following then plain
    else malformed

/-- The tokens that are certain: what could still turn out to begin a key is not. -/
def certain (s : Layout) : List Token :=
  let fresh := s.keyStarts.filter fun p => !p.2.isStale s.place
  s.tokens.toList.take (fresh.foldl (fun n p => min n p.2.token) s.tokens.size)

def tokensFrom : Nat → Layout → List Token
  | 0, s => s.certain ++ [.broken .malformed]
  | fuel + 1, s =>
    match next.run s with
    | .error p => s.certain ++ [.broken p]
    | .ok (_, s) => if s.finished then s.tokens.toList else tokensFrom fuel s

end Layout

/-- The tokens of a text. Each step but the last takes a character. -/
def tokens (chars : List Char) : List Token :=
  Layout.tokensFrom (chars.length + 1) ⟨⟨chars, 0, 0, 0⟩, #[], 0, [], true, [], false⟩

end Yaml
end TelemetryCheck
