import TelemetryCheck.Yaml.Place

/-!
# Block texts

A text of indented lines. Literal texts keep their lines, folded ones join them; a sign says what
happens to the line ends after the last line.
-/

namespace TelemetryCheck
namespace Yaml
namespace Block

open Scan

/-- What happens to line ends at the end of the text: one is kept, none, or all. -/
inductive Chomping
  | clip
  | strip
  | keep
  deriving Repr, DecidableEq

def takeChomping : Scan (Option Chomping) := do
  match ← peek with
  | some '+' =>
    skip 1
    return some .keep
  | some '-' =>
    skip 1
    return some .strip
  | _ => return none

/-- The indentation of the text below that of what it belongs to. -/
def takeIncrement : Scan (Option Nat) := do
  match ← peek with
  | some c =>
    if c.isDigit then
      if c = '0' then malformed
      else
        skip 1
        return some (c.toNat - 48)
    else return none
  | none => return none

/-- The signs after the one that begins the text; the two may come in either order. -/
def header : Scan (Chomping × Option Nat) := do
  let first ← takeChomping
  let increment ← takeIncrement
  let chomping ← match first, increment with
    | some c, _ => pure c
    | none, some _ => return ((← takeChomping).getD .clip, increment)
    | none, none => pure .clip
  return (chomping, increment)

def skipIndent (indent : Nat) : Scan Unit := do
  let place ← get
  skip ((place.rest.take (indent - place.column)).takeWhile (· == ' ')).length

def emptyLines (indent : Nat) : Nat → Scan (List Char)
  | 0 => return []
  | fuel + 1 => do
    skipIndent indent
    match ← takeBreak with
    | [] => return []
    | line => return line ++ (← emptyLines indent fuel)

/-- The empty lines before the text, with the widest indentation seen. -/
def leadingLines (widest : Nat) : Nat → Scan (List Char × Nat)
  | 0 => return ([], widest)
  | fuel + 1 => do
    let spaces ← takeWhile (· == ' ')
    let widest := max widest spaces.length
    match ← takeBreak with
    | [] => return ([], widest)
    | line =>
      let (more, widest) ← leadingLines widest fuel
      return (line ++ more, widest)

def atLine (indent : Nat) : Scan Bool := do
  let place ← get
  return place.column == indent && !place.rest.isEmpty

/-- The lines of the text, the end of the last one and the empty lines after it; `before` holds
the empty lines that come first. -/
def lines (folded : Bool) (indent : Nat) (before : List Char) :
    Nat → Scan (List Char × List Char × List Char)
  | 0 => return ([], [], before)
  | fuel + 1 => do
    if ← atLine indent then
      let spaced := (← peek).any isGap
      let chars ← takeWhile (!isBreak ·)
      let ended ← takeBreak
      let after ← emptyLines indent (← remaining)
      if ← atLine indent then
        let joined := folded && ended == ['\n'] && !spaced && !(← peek).any isGap
        let between := if !joined then ended else if after.isEmpty then [' '] else []
        let (more, ended, after) ← lines folded indent after fuel
        return (before ++ chars ++ between ++ more, ended, after)
      else return (before ++ chars, ended, after)
    else return ([], [], before)

/-- A block text inside something that is indented by `outer - 1` columns. -/
def take (folded : Bool) (outer : Nat) : Scan (List Char) := do
  skip 1
  let (chomping, increment) ← header
  if !endsName (← peek) then malformed
  else
    endLine
    let least := max outer 1
    let (indent, before) ← match increment with
      | some n => pure (least + n - 1, ← emptyLines (least + n - 1) (← remaining))
      | none => do
        let (before, widest) ← leadingLines 0 (← remaining)
        pure (max least widest, before)
    let (chars, ended, after) ← lines folded indent before (← remaining)
    return chars ++ (if chomping = .strip then [] else ended) ++
      if chomping = .keep then after else []

end Block
end Yaml
end TelemetryCheck
