import TelemetryCheck.Data
import TelemetryCheck.Text.Digit

/-!
# Timestamps

`2001-12-14`, or a day with a time of day: `2001-12-14t21:59:43.10-05:00`.
-/

namespace TelemetryCheck
namespace Yaml

/-- A timestamp as it is written; there need be no such time. -/
inductive Timestamp
  | date (d : Calendar.Date)
  | moment (m : Calendar.Moment)
  deriving Repr, DecidableEq

namespace Timestamp

def takeNumber (least most : Nat) (cs : List Char) : Option (Nat × List Char) :=
  let digits := (cs.take most).takeWhile Char.isDigit
  if least ≤ digits.length then some (Text.digitsValue digits, cs.drop digits.length) else none

def takeSign (sign : Char) : List Char → Option (List Char)
  | c :: rest => if c = sign then some rest else none
  | [] => none

def isGap (c : Char) : Bool := c == ' ' || c == '\t'

def takeSeparator : List Char → Option (List Char)
  | 'T' :: rest => some rest
  | 't' :: rest => some rest
  | c :: rest => if isGap c then some (rest.dropWhile isGap) else none
  | [] => none

/-- A fraction of a second in microseconds; further digits are left out. -/
def takeFraction : List Char → Nat × List Char
  | '.' :: rest =>
    let digits := rest.takeWhile Char.isDigit
    (Text.digitsValue ((digits ++ List.replicate 6 '0').take 6), rest.drop digits.length)
  | cs => (0, cs)

def takeOffset (cs : List Char) : Option (Int × List Char) := do
  let (hours, rest) ← takeNumber 1 2 cs
  match rest with
  | ':' :: rest =>
    let (minutes, rest) ← takeNumber 2 2 rest
    return (3600 * hours + 60 * minutes, rest)
  | _ => return (3600 * hours, rest)

/-- The zone at the end of a timestamp: none, `Z`, or a distance with its sign. -/
def zone? (cs : List Char) : Option (Option Int) :=
  match cs with
  | [] => some none
  | _ =>
    match cs.dropWhile isGap with
    | ['Z'] => some (some 0)
    | '+' :: rest =>
      match takeOffset rest with
      | some (seconds, []) => some (some seconds)
      | _ => none
    | '-' :: rest =>
      match takeOffset rest with
      | some (seconds, []) => some (some (-seconds))
      | _ => none
    | _ => none

def takeDate (cs : List Char) : Option (Calendar.Date × List Char) := do
  let (year, rest) ← takeNumber 4 4 cs
  let (month, rest) ← takeNumber 1 2 (← takeSign '-' rest)
  let (day, rest) ← takeNumber 1 2 (← takeSign '-' rest)
  return (⟨year, month, day⟩, rest)

def takeTime (day : Calendar.Date) (cs : List Char) : Option Calendar.Moment := do
  let (hour, rest) ← takeNumber 1 2 (← takeSeparator cs)
  let (minute, rest) ← takeNumber 2 2 (← takeSign ':' rest)
  let (second, rest) ← takeNumber 2 2 (← takeSign ':' rest)
  let (microsecond, rest) := takeFraction rest
  return ⟨day, hour, minute, second, microsecond, ← zone? rest⟩

def ofChars? (cs : List Char) : Option Timestamp := do
  let (day, rest) ← takeDate cs
  match rest with
  | [] => return .date day
  | _ => return .moment (← takeTime day rest)

/-- A day alone is taken for a timestamp only with two digits for the month and for the day. -/
def isPlain (cs : List Char) : Bool :=
  match ofChars? cs with
  | some (.date _) => cs.length == 10
  | some (.moment _) => true
  | none => false

def data : Timestamp → Except Fault Data
  | .date d => d.checked.map Data.date
  | .moment m => m.checked.map Data.moment

end Timestamp
end Yaml
end TelemetryCheck
