import TelemetryCheck.Decimal.Binary64
import TelemetryCheck.Decimal.Written
import TelemetryCheck.Text.Blank
import TelemetryCheck.Text.Digit

namespace TelemetryCheck
namespace Decimal

inductive IntegerError
  | malformed
  | tooLong (digits : Nat)
  deriving Repr, DecidableEq

def maxIntegerDigits : Nat := 4300

def tooLongText (digits : Nat) : String :=
  "Exceeds the limit (4300 digits) for integer string conversion: value has " ++ natText digits ++
    " digits; use sys.set_int_max_str_digits() to increase the limit"

def takeSign : List Char → Bool × List Char
  | '-' :: rest => (true, rest)
  | '+' :: rest => (false, rest)
  | cs => (false, cs)

/-- The digits at the front, single underscores between them left out, and what follows. An
underscore that is not between two digits is left in what follows. -/
def takeDigits : List Char → List Char × List Char
  | '_' :: rest => ([], '_' :: rest)
  | c :: '_' :: d :: rest =>
    if Text.isDigit c then
      if Text.isDigit d then
        let (digits, after) := takeDigits (d :: rest)
        (c :: digits, after)
      else ([c], '_' :: d :: rest)
    else ([], c :: '_' :: d :: rest)
  | c :: rest =>
    if Text.isDigit c then
      let (digits, after) := takeDigits rest
      (c :: digits, after)
    else ([], c :: rest)
  | [] => ([], [])

/-- Reads an integer: blanks around it, a sign, digits of any script with single underscores
between them. -/
def readInteger (cs : List Char) : Except IntegerError Int :=
  let (negative, rest) := takeSign (Text.trim cs)
  let (digits, after) := takeDigits rest
  if maxIntegerDigits < digits.length then .error (.tooLong digits.length)
  else if digits.isEmpty || !after.isEmpty then .error .malformed
  else
    let value : Int := Text.digitsValue digits
    .ok (if negative then -value else value)

def lowerAscii (cs : List Char) : List Char :=
  cs.map fun c => if 'A' ≤ c ∧ c ≤ 'Z' then Char.ofNat (c.toNat + 32) else c

/-- The exponent of a number: `e`, a sign and digits. -/
def takeExponent : List Char → Option (Int × List Char)
  | c :: rest =>
    if c = 'e' ∨ c = 'E' then
      let (negative, rest) := takeSign rest
      match takeDigits rest with
      | ([], _) => none
      | (digits, after) =>
        let value : Int := Text.digitsValue digits
        some (if negative then -value else value, after)
    else none
  | [] => none

/-- Reads a number: blanks around it, a sign, digits with an optional point among or beside them
and an optional exponent, or one of the words for infinity and for no number. -/
def readFloat? (cs : List Char) : Option Float :=
  let (negative, rest) := takeSign (Text.trim cs)
  let word := String.ofList (lowerAscii rest)
  if word = "inf" ∨ word = "infinity" then some (infinity negative)
  else if word = "nan" then some notANumber
  else
    let (whole, rest) := takeDigits rest
    let (fraction, rest) :=
      match rest with
      | '.' :: rest => takeDigits rest
      | _ => ([], rest)
    if whole.isEmpty && fraction.isEmpty then none
    else
      let digits := Text.digitsValue (whole ++ fraction)
      match rest with
      | [] => some (ofScientific negative digits (-fraction.length))
      | _ =>
        match takeExponent rest with
        | some (exponent, []) => some (ofScientific negative digits (exponent - fraction.length))
        | _ => none

end Decimal
end TelemetryCheck
