namespace TelemetryCheck
namespace Decimal

/-- What a double stands for: a finite one is `mantissa * 2 ^ exponent` with its sign. -/
inductive Parts
  | notANumber
  | infinite (negative : Bool)
  | finite (negative : Bool) (mantissa : Nat) (exponent : Int)
  deriving Repr, DecidableEq

def parts (x : Float) : Parts :=
  let bits : Nat := x.toBits.toNat
  let negative := bits / Nat.pow 2 63 == 1
  let biased : Nat := bits / Nat.pow 2 52 % Nat.pow 2 11
  let fraction : Nat := bits % Nat.pow 2 52
  if biased = 2047 then
    if fraction = 0 then .infinite negative else .notANumber
  else if biased = 0 then .finite negative fraction (-1074)
  else .finite negative (fraction + Nat.pow 2 52) (biased - 1075)

/-- The quotient rounded to the nearest integer, halves to the even neighbour. -/
def roundQuotient (num den : Nat) : Nat :=
  let q := num / den
  let r := num % den
  if 2 * r < den then q
  else if den < 2 * r then q + 1
  else if q % 2 = 0 then q else q + 1

/-- `num / den * 2 ^ (-e)` as a fraction. -/
def scaleDown (num den : Nat) (e : Int) : Nat × Nat :=
  if e < 0 then (num * Nat.pow 2 (-e).toNat, den) else (num, den * Nat.pow 2 e.toNat)

/-- The bits of the double nearest to `num / den`, halves to the even mantissa. The exponent is
the one that leaves 53 bits, or the least one that doubles have. -/
def bitsOfRatio (num den : Nat) : Nat :=
  if num = 0 ∨ den = 0 then 0
  else
    let guess : Int := (num.log2 : Int) - den.log2 - 52
    let (n, d) := scaleDown num den guess
    let e : Int := max (if n / d < Nat.pow 2 52 then guess - 1 else guess) (-1074)
    let (n, d) := scaleDown num den e
    let m := roundQuotient n d
    let bits :=
      if m < Nat.pow 2 52 then m else (e + 1075).toNat * Nat.pow 2 52 + (m - Nat.pow 2 52)
    min bits (2047 * Nat.pow 2 52)

def ofRatio (negative : Bool) (num den : Nat) : Float :=
  Float.ofBits (UInt64.ofNat (bitsOfRatio num den + if negative then Nat.pow 2 63 else 0))

def infinity (negative : Bool) : Float :=
  Float.ofBits (UInt64.ofNat (2047 * Nat.pow 2 52 + if negative then Nat.pow 2 63 else 0))

def notANumber : Float := Float.ofBits (UInt64.ofNat (4095 * Nat.pow 2 51))

def ofInt (i : Int) : Float := ofRatio (i < 0) i.natAbs 1

/-- The double nearest to `digits * 10 ^ exponent`. Exponents far outside the range of doubles
are settled by the number of digits alone. -/
def ofScientific (negative : Bool) (digits : Nat) (exponent : Int) : Float :=
  if digits = 0 then ofRatio negative 0 1
  else
    let size : Int := (Nat.toDigits 10 digits).length + exponent
    if 400 < size then infinity negative
    else if size < -400 then ofRatio negative 0 1
    else if exponent < 0 then ofRatio negative digits (Nat.pow 10 (-exponent).toNat)
    else ofRatio negative (digits * Nat.pow 10 exponent.toNat) 1

def ratioOf (mantissa : Nat) (exponent : Int) : Nat × Nat :=
  if exponent < 0 then (mantissa, Nat.pow 2 (-exponent).toNat)
  else (mantissa * Nat.pow 2 exponent.toNat, 1)

def isFinite (x : Float) : Bool :=
  match parts x with
  | .finite .. => true
  | _ => false

/-- The integer that a finite double without a fraction stands for. -/
def integer? (x : Float) : Option Int :=
  match parts x with
  | .finite negative mantissa exponent =>
    let (num, den) := ratioOf mantissa exponent
    if num % den = 0 then some (if negative then -(num / den : Nat) else (num / den : Nat)) else none
  | _ => none

end Decimal
end TelemetryCheck
