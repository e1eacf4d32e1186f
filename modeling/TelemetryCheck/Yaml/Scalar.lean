import TelemetryCheck.Base64
import TelemetryCheck.Text.Casing
import TelemetryCheck.Yaml.Place
import TelemetryCheck.Yaml.Tag

/-!
# Scalars

The value of a text of a given kind.
-/

namespace TelemetryCheck
namespace Yaml
namespace Scalar

def fail {α : Type} (f : Fault) : Except Problem α := .error (.fault f)

def digitValue? (c : Char) : Option Nat := Text.digit? c <|> Text.hexDigit? c

def basedDigits? (base : Nat) (digits : List Char) : Option Nat :=
  if digits.isEmpty then none
  else digits.foldlM (fun n c => do
    let d ← digitValue? c
    if d < base then some (base * n + d) else none) 0

def baseLetter? : Char → Option Nat
  | 'b' | 'B' => some 2
  | 'o' | 'O' => some 8
  | 'x' | 'X' => some 16
  | _ => none

def dropBase (base : Nat) : List Char → List Char
  | '0' :: c :: rest => if baseLetter? c = some base then rest else '0' :: c :: rest
  | cs => cs

/-- Reads an integer to a base that is a power of two; the base may be announced. -/
def basedInteger (base : Nat) (cs : List Char) : Except Problem Int :=
  let (negative, rest) := Decimal.takeSign (Text.trim cs)
  match basedDigits? base (dropBase base rest) with
  | some n => .ok (if negative then -(n : Int) else n)
  | none => fail (.integerText base (String.ofList cs))

def decimalInteger (cs : List Char) : Except Problem Int :=
  match Decimal.readInteger cs with
  | .ok i => .ok i
  | .error e => fail (.ofIntegerError cs e)

/-- The digits of a number to the base sixty make up a number, the first one counting most. -/
def sixtyValue (digits : List Int) : Int := digits.foldl (fun n d => 60 * n + d) 0

def magnitude (cs : List Char) : Except Problem Int :=
  match cs with
  | [] => fail .emptyNumber
  | ['0'] => .ok 0
  | '0' :: 'b' :: rest => basedInteger 2 rest
  | '0' :: 'x' :: rest => basedInteger 16 rest
  | '0' :: _ => basedInteger 8 cs
  | _ =>
    if cs.contains ':' then ((Tag.colonParts cs).mapM decimalInteger).map sixtyValue
    else decimalInteger cs

def integer (cs : List Char) : Except Problem Int :=
  match cs.filter (· != '_') with
  | [] => fail .emptyNumber
  | '-' :: rest => (magnitude rest).map (-·)
  | '+' :: rest => magnitude rest
  | rest => magnitude rest

def decimalFloat (cs : List Char) : Except Problem Float :=
  match Decimal.readFloat? cs with
  | some x => .ok x
  | none => fail (.floatText (String.ofList cs))

/-- The last digit counts as it is, each one before it sixty times as much. -/
def sixtySum (value : Float) (weight : Nat) : List Float → Except Problem Float
  | [] => .ok value
  | d :: rest =>
    let w := Decimal.ofInt weight
    if Decimal.isFinite w then sixtySum (value + d * w) (weight * 60) rest
    else fail .floatTooLarge

def positiveFloat (cs : List Char) : Except Problem Float := do
  if String.ofList cs = ".inf" then return Decimal.infinity false
  else if String.ofList cs = ".nan" then return Decimal.notANumber
  else if cs.contains ':' then
    let digits ← (Tag.colonParts cs).mapM decimalFloat
    sixtySum 0.0 1 digits.reverse
  else decimalFloat cs

def float (cs : List Char) : Except Problem Float :=
  match Text.lower (cs.filter (· != '_')) with
  | [] => fail .emptyNumber
  | '-' :: rest => (positiveFloat rest).map fun x => if x.isNaN then x else -x
  | '+' :: rest => positiveFloat rest
  | rest => positiveFloat rest

def bool (cs : List Char) : Except Problem Bool :=
  let word := String.ofList (Text.lower cs)
  if ["yes", "true", "on"].contains word then .ok true
  else if ["no", "false", "off"].contains word then .ok false
  else fail (.missingKey (Text.quoted word))

def timestamp (cs : List Char) : Except Problem Data :=
  match Timestamp.ofChars? (Tag.judged cs) with
  | none => fail .notMoment
  | some t =>
    match t.data with
    | .ok d => .ok d
    | .error f => fail f

/-- The value of a text of a kind; collections have no text. -/
def value (tag : Tag) (text : String) : Except Problem Data :=
  let cs := text.toList
  match tag with
  | .null => .ok .null
  | .bool => (bool cs).map .bool
  | .int => (integer cs).map .int
  | .float => (float cs).map .float
  | .binary =>
    match Base64.decode? text with
    | some bytes => .ok (.binary bytes)
    | none => .error .malformed
  | .timestamp => timestamp cs
  | .text => .ok (.text text)
  | _ => .error .malformed

end Scalar
end Yaml
end TelemetryCheck
