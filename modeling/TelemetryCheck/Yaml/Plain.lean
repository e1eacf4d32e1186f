import TelemetryCheck.Yaml.Place

/-!
# Texts without quotes

They end at a colon or a comment that stands apart and, inside brackets, at the characters that
brackets give a meaning to.
-/

namespace TelemetryCheck
namespace Yaml
namespace Plain

open Scan

def isBracketSign (c : Char) : Bool :=
  c == ',' || c == '?' || c == '[' || c == ']' || c == '\x7b' || c == '\x7d'

/-- Whether a colon before this character ends a text. -/
def endsBefore (inBrackets : Bool) (next : Option Char) : Bool :=
  endsToken next || inBrackets && next.any fun c => c != '?' && isBracketSign c

def run (inBrackets : Bool) : List Char → List Char
  | [] => []
  | c :: rest =>
    if isGap c || isBreak c then []
    else if c == ':' && endsBefore inBrackets rest.head? then []
    else if inBrackets && isBracketSign c then []
    else c :: run inBrackets rest

/-- The ends of empty lines; none where a separator of documents follows. -/
def emptyLines : Nat → Scan (Option (List Char))
  | 0 => return some []
  | fuel + 1 => do
    if ← atSeparator then return none
    else
      let _ ← takeWhile (· == ' ')
      match ← takeBreak with
      | [] => return some []
      | line => return (← emptyLines fuel).map (line ++ ·)

/-- What stands between two parts of a text, and whether a line ended there. -/
def gap : Scan (List Char × Bool) := do
  let spaces ← takeWhile (· == ' ')
  match ← takeBreak with
  | [] => return (spaces, false)
  | first =>
    match ← emptyLines (← remaining) with
    | none => return ([], true)
    | some more => return (joinedBreaks first more, true)

/-- The parts after `before`, and whether a line ended after the last of them. -/
def parts (inBrackets : Bool) (indent : Nat) (before : List Char) (ended : Bool) :
    Nat → Scan (List Char × Bool)
  | 0 => return ([], ended)
  | fuel + 1 => do
    let place ← get
    let chars := run inBrackets place.rest
    if place.rest.head? = some '#' || chars.isEmpty then return ([], ended)
    else
      skip chars.length
      let (between, ended) ← gap
      let place ← get
      if between.isEmpty || place.rest.head? = some '#' ||
          !inBrackets && place.column < indent then
        return (before ++ chars, ended)
      else
        let (more, ended) ← parts inBrackets indent between ended fuel
        return (before ++ chars ++ more, ended)

/-- A text whose further lines are indented by at least `indent` columns, and whether a line
ended after it. -/
def take (inBrackets : Bool) (indent : Nat) : Scan (List Char × Bool) := do
  parts inBrackets indent [] false (← remaining)

end Plain
end Yaml
end TelemetryCheck
