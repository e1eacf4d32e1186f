import TelemetryCheck.Decimal.Shortest

namespace TelemetryCheck
namespace Decimal

def signText (negative : Bool) : String := if negative then "-" else ""

def zeros (n : Nat) : String := String.ofList (List.replicate n '0')

def natText (n : Nat) : String := String.ofList (Nat.toDigits 10 n)

def intText (i : Int) : String := signText (i < 0) ++ natText i.natAbs

/-- `digits` with a point before the last `places` of them. -/
def pointed (digits : Nat) (places : Nat) : String :=
  let text := natText digits
  if places = 0 then text
  else
    let text := zeros (places + 1 - text.length) ++ text
    let chars := text.toList
    let whole := chars.length - places
    String.ofList (chars.take whole) ++ "." ++ String.ofList (chars.drop whole)

def exponentText (e : Int) : String :=
  let size := natText e.natAbs
  "e" ++ (if e < 0 then "-" else "+") ++ zeros (2 - size.length) ++ size

/-- `d.ddd` followed by the exponent of the first digit. -/
def scientific (digits : Nat) (exponent : Int) : String :=
  let places := digitCount digits - 1
  pointed digits places ++ exponentText (exponent + places)

def positional (digits : Nat) (exponent : Int) : String :=
  if exponent < 0 then pointed digits (-exponent).toNat
  else natText digits ++ (if digits = 0 then "" else zeros exponent.toNat)

/-- How numbers are written: from which exponents the scientific form is used and whether a
number without a fraction shows one. -/
structure Style where
  least : Int
  limit : Int
  showsFraction : Bool

/-- Numbers as such: in full from `0.0001` to below `10 ^ 16`, always with a fraction or an
exponent. -/
def plainStyle : Style := ⟨-4, 16, true⟩

/-- Numbers in messages: in full up to six digits. -/
def briefStyle : Style := ⟨-4, 6, false⟩

def Style.write (style : Style) (digits : Nat) (exponent : Int) : String :=
  let first : Int := exponent + digitCount digits - 1
  if digits ≠ 0 ∧ (first < style.least ∨ style.limit ≤ first) then scientific digits exponent
  else if 0 ≤ exponent ∧ style.showsFraction then positional digits exponent ++ ".0"
  else positional digits exponent

def specialText : Parts → Option String
  | .notANumber => some "nan"
  | .infinite negative => some (signText negative ++ "inf")
  | .finite .. => none

/-- The fewest digits that read back. -/
def floatText (x : Float) : String :=
  match parts x with
  | .finite negative mantissa exponent =>
    let (digits, power) := if mantissa = 0 then (0, 0) else shortest mantissa exponent
    signText negative ++ plainStyle.write digits power
  | p => (specialText p).getD ""

/-- A positive fraction rounded to `count` significant digits. -/
def significant (count : Nat) (num den : Nat) : Nat × Int :=
  let exponent := leadingExponent num den + 1 - count
  let digits :=
    if exponent < 0 then roundQuotient (num * Nat.pow 10 (-exponent).toNat) den
    else roundQuotient num (den * Nat.pow 10 exponent.toNat)
  dropZeros (count + 1) digits exponent

/-- Six significant digits, without zeros at the end. -/
def briefText (x : Float) : String :=
  match parts x with
  | .finite negative mantissa exponent =>
    let (num, den) := ratioOf mantissa exponent
    let (digits, power) := if mantissa = 0 then (0, 0) else significant 6 num den
    signText negative ++ briefStyle.write digits power
  | p => (specialText p).getD ""

/-- A fixed number of places, a half going to the even neighbour. -/
def fixedText (places : Nat) (x : Float) : String :=
  match parts x with
  | .finite negative mantissa exponent =>
    let (num, den) := ratioOf mantissa exponent
    signText negative ++ pointed (roundQuotient (num * Nat.pow 10 places) den) places
  | p => (specialText p).getD ""

/-- The double nearest to the number rounded to a fixed number of places. -/
def roundTo (places : Nat) (x : Float) : Float :=
  match parts x with
  | .finite negative mantissa exponent =>
    let (num, den) := ratioOf mantissa exponent
    ofRatio negative (roundQuotient (num * Nat.pow 10 places) den) (Nat.pow 10 places)
  | _ => x

end Decimal
end TelemetryCheck
