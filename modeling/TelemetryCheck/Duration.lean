import TelemetryCheck.Decimal.Numeral
import TelemetryCheck.Text.Blank
import TelemetryCheck.Text.Quoted

/-!
# Durations

A duration is a sequence of parts, each a decimal number and a unit, as in `1m30s`.
-/

namespace TelemetryCheck
namespace Duration

inductive Unit
  | nano | micro | milli | second | minute | hour
  deriving Repr, DecidableEq

def Unit.seconds : Unit → Float
  | .nano => 1e-9
  | .micro => 1e-6
  | .milli => 1e-3
  | .second => 1.0
  | .minute => 60.0
  | .hour => 3600.0

/-- One part: the digits before and after the point, and the unit. -/
structure Part where
  whole : List Char
  fraction : List Char
  unit : Unit
  deriving Repr, DecidableEq

/-- The unit at the front of a text; the longer of two units with one beginning is tried first. -/
def takeUnit? : List Char → Option (Unit × List Char)
  | 'n' :: 's' :: rest => some (.nano, rest)
  | 'u' :: 's' :: rest => some (.micro, rest)
  | 'µ' :: 's' :: rest => some (.micro, rest)
  | 'm' :: 's' :: rest => some (.milli, rest)
  | 's' :: rest => some (.second, rest)
  | 'm' :: rest => some (.minute, rest)
  | 'h' :: rest => some (.hour, rest)
  | _ => none

/-- Digits of any script at the front of a text: one or more, and as many as leave something that
`next` can take. -/
def takeDigits? {α : Type} (next : List Char → Option α) : List Char → Option (List Char × α)
  | [] => none
  | c :: cs =>
    if Text.isDigit c then
      match takeDigits? next cs with
      | some (digits, found) => some (c :: digits, found)
      | none => (next cs).map fun found => ([c], found)
    else none

/-- The digits after a point, if there are any, and the unit. -/
def takeFraction? (cs : List Char) : Option (List Char × Unit × List Char) :=
  let fraction? := match cs with
    | '.' :: rest => takeDigits? takeUnit? rest
    | _ => none
  fraction?.or ((takeUnit? cs).map fun found => ([], found))

def takePart? (cs : List Char) : Option (Part × List Char) :=
  (takeDigits? takeFraction? cs).map fun (whole, fraction, unit, rest) =>
    (⟨whole, fraction, unit⟩, rest)

/-- The first part of a text with the number of characters before it and what follows it. -/
def findPart? : List Char → Option (Nat × Part × List Char)
  | [] => none
  | c :: cs =>
    match takePart? (c :: cs) with
    | some (part, rest) => some (0, part, rest)
    | none => (findPart? cs).map fun (skipped, found) => (skipped + 1, found)

def Part.number (p : Part) : Float :=
  Decimal.ofScientific false (Text.digitsValue (p.whole ++ p.fraction)) (-p.fraction.length)

/-- Adds number times unit for the parts of a text, as long as each is found where the one before
it ended, and returns the rest of the text with the sum. Every part takes characters, so the length
of the text bounds their number. -/
def addParts : Nat → Float → List Char → Float × List Char
  | 0, sum, cs => (sum, cs)
  | fuel + 1, sum, cs =>
    match findPart? cs with
    | some (0, part, rest) => addParts fuel (sum + part.number * part.unit.seconds) rest
    | _ => (sum, cs)

/-- Reads a duration in seconds; blanks around it do not count. -/
def parse (text : String) : Except String Float :=
  let cs := Text.trim text.toList
  if cs.isEmpty then .error "empty duration"
  else
    let (sum, rest) := addParts cs.length 0.0 cs
    if rest.isEmpty then .ok sum
    else
      .error ("invalid duration " ++ Text.quoted text ++ ", expected e.g. '100ms', '2s' or '1m30s'")

end Duration
end TelemetryCheck
