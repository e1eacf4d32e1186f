import TelemetryCheck.Decimal.Binary64

namespace TelemetryCheck
namespace Decimal

def digitCount (n : Nat) : Nat := (Nat.toDigits 10 n).length

/-- The exponent of the first decimal digit of a positive fraction that is at least `10 ^ -400`. -/
def leadingExponent (num den : Nat) : Int :=
  (digitCount (num * Nat.pow 10 400 / den) : Int) - 401

/-- Whether `digits * 10 ^ exponent ≤ num / den`, or less where `strict`. -/
def atMost (strict : Bool) (digits : Nat) (exponent : Int) (num den : Nat) : Bool :=
  let (left, right) :=
    if exponent < 0 then (digits * den, num * Nat.pow 10 (-exponent).toNat)
    else (digits * Nat.pow 10 exponent.toNat * den, num)
  if strict then left < right else left ≤ right

/-- Whether `num / den ≤ digits * 10 ^ exponent`, or less where `strict`. -/
def atLeast (strict : Bool) (digits : Nat) (exponent : Int) (num den : Nat) : Bool :=
  !atMost (!strict) digits exponent num den

/-- The reals that round to a double: between the midpoints to its neighbours, the ends included
when the mantissa is even. -/
structure Interval where
  lowNum : Nat
  highNum : Nat
  den : Nat
  closed : Bool

def Interval.ofParts (mantissa : Nat) (exponent : Int) : Interval :=
  let lowGap := if mantissa = Nat.pow 2 52 ∧ -1074 < exponent then 1 else 2
  let scale := Nat.pow 2 (exponent - 2).toNat
  { lowNum := (4 * mantissa - lowGap) * scale
    highNum := (4 * mantissa + 2) * scale
    den := Nat.pow 2 (2 - exponent).toNat
    closed := mantissa % 2 = 0 }

def Interval.mem (i : Interval) (digits : Nat) (exponent : Int) : Bool :=
  atLeast (!i.closed) digits exponent i.lowNum i.den &&
    atMost (!i.closed) digits exponent i.highNum i.den

/-- The best decimal with `count` digits inside the interval: one of the two neighbours of
`num / den` on that grid, the nearer where both are inside, the even one on a tie. -/
def onGrid? (i : Interval) (num den : Nat) (first : Int) (count : Nat) : Option (Nat × Int) :=
  let exponent := first + 1 - count
  let below :=
    if exponent < 0 then num * Nat.pow 10 (-exponent).toNat / den
    else num / (den * Nat.pow 10 exponent.toNat)
  let above := below + 1
  match i.mem below exponent, i.mem above exponent with
  | true, true =>
    let middle := 2 * below + 1
    if atLeast true middle exponent (2 * num) den then some (below, exponent)
    else if atMost true middle exponent (2 * num) den then some (above, exponent)
    else some (if below % 2 = 0 then below else above, exponent)
  | true, false => some (below, exponent)
  | false, true => some (above, exponent)
  | false, false => none

def dropZeros : Nat → Nat → Int → Nat × Int
  | 0, digits, exponent => (digits, exponent)
  | fuel + 1, digits, exponent =>
    if digits % 10 = 0 ∧ digits ≠ 0 then dropZeros fuel (digits / 10) (exponent + 1)
    else (digits, exponent)

/-- The decimal with the fewest digits that reads back as a positive double, as
`digits * 10 ^ exponent` without zeros at the end. Seventeen digits always do. -/
def shortest (mantissa : Nat) (exponent : Int) : Nat × Int :=
  let (num, den) := ratioOf mantissa exponent
  let first := leadingExponent num den
  let i := Interval.ofParts mantissa exponent
  let (digits, power) :=
    ((List.range 17).findSome? fun n => onGrid? i num den first (n + 1)).getD (0, 0)
  dropZeros 20 digits power

end Decimal
end TelemetryCheck
