import TelemetryCheck.Failure

/-!
# Places in a text

Reading goes forward through the characters of a text and keeps the line and the column, because
indentation means something.
-/

namespace TelemetryCheck
namespace Yaml

/-- Why a text holds no data: it is not well formed, or a value that it writes cannot exist. -/
inductive Problem
  | malformed
  | fault (f : Fault)
  deriving Repr, DecidableEq

/-- What is left of the text, and where that is. -/
structure Place where
  rest : List Char
  index : Nat := 0
  line : Nat := 0
  column : Nat := 0

def byteOrderMark : Char := '\uFEFF'

def isBreak (c : Char) : Bool :=
  c == '\n' || c == '\u0085' || c == '\u2028' || c == '\u2029'

/-- Spaces and tabs. -/
def isGap (c : Char) : Bool := c == ' ' || c == '\t'

/-- Characters that a text may hold. -/
def isAllowed (c : Char) : Bool :=
  let n := c.toNat
  c == '\t' || c == '\n' || (0x20 ≤ n && n ≤ 0x7E) || n == 0x85 || (0xA0 ≤ n && n ≤ 0xD7FF) ||
    (0xE000 ≤ n && n ≤ 0xFFFD) || 0x10000 ≤ n

/-- The end of a line, or of the text. -/
def endsLine (c : Option Char) : Bool := c.all isBreak

def endsName (c : Option Char) : Bool := c.all fun c => c == ' ' || isBreak c

def endsToken (c : Option Char) : Bool := c.all fun c => isGap c || isBreak c

namespace Place

/-- One character on; a byte order mark takes no column. -/
def step (p : Place) : Place :=
  match p.rest with
  | [] => p
  | c :: rest =>
    if isBreak c then ⟨rest, p.index + 1, p.line + 1, 0⟩
    else ⟨rest, p.index + 1, p.line, if c = byteOrderMark then p.column else p.column + 1⟩

def forward : Nat → Place → Place
  | 0, p => p
  | n + 1, p => forward n p.step

end Place

abbrev Scan := StateT Place (Except Problem)

namespace Scan

def malformed {α : Type} : Scan α := throw .malformed

def peek : Scan (Option Char) := return (← get).rest.head?

def peekAt (n : Nat) : Scan (Option Char) := return (← get).rest[n]?

def skip (n : Nat) : Scan Unit := modify (Place.forward n)

/-- How many steps reading the rest can take. -/
def remaining : Scan Nat := return (← get).rest.length + 1

def takeWhile (p : Char → Bool) : Scan (List Char) := do
  let taken := (← get).rest.takeWhile p
  skip taken.length
  return taken

def expect (c : Char) : Scan Unit := do
  if (← peek) = some c then skip 1 else malformed

/-- The end of a line as it counts inside a text: the separators of lines and of paragraphs stay,
all others are a line feed. Nothing where no line ends. -/
def takeBreak : Scan (List Char) := do
  match ← peek with
  | none => return []
  | some c =>
    if isBreak c then
      skip 1
      return [if c = '\u0085' then '\n' else c]
    else return []

/-- Three dashes or dots that stand alone separate documents. -/
def atSeparator : Scan Bool := do
  let rest := (← get).rest
  return (rest.take 3 == ['-', '-', '-'] || rest.take 3 == ['.', '.', '.']) && endsToken rest[3]?

def skipComment : Scan Unit := do
  if (← peek) = some '#' then
    let _ ← takeWhile (!isBreak ·)

/-- The rest of a line on which nothing but a comment may follow. -/
def endLine : Scan Unit := do
  let _ ← takeWhile (· == ' ')
  skipComment
  if endsLine (← peek) then
    let _ ← takeBreak
  else malformed

/-- Lines that are joined: a single line feed becomes a space, further ones stay. -/
def joinedBreaks (first more : List Char) : List Char :=
  (if first ≠ ['\n'] then first else if more.isEmpty then [' '] else []) ++ more

end Scan
end Yaml
end TelemetryCheck
