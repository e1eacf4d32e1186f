import TelemetryCheck.Text.Quoted

namespace TelemetryCheck
namespace Base64

def sextet? (c : Char) : Option Nat :=
  if 'A' ≤ c ∧ c ≤ 'Z' then some (c.toNat - 65)
  else if 'a' ≤ c ∧ c ≤ 'z' then some (c.toNat - 71)
  else if '0' ≤ c ∧ c ≤ '9' then some (c.toNat + 4)
  else if c = '+' then some 62
  else if c = '/' then some 63
  else none

/-- The bytes of a text in base 64. `left` holds the digits of the group that is not complete,
`pads` the padding seen since the last digit. Characters outside the alphabet are skipped, and
complete padding ends the text. -/
def decodeFrom (left : List Nat) (pads : Nat) : List Char → Option (List UInt8)
  | [] => if left.isEmpty then some [] else none
  | c :: rest =>
    if c = '=' then
      if 2 ≤ left.length then
        if 4 ≤ left.length + pads + 1 then some [] else decodeFrom left (pads + 1) rest
      else decodeFrom left pads rest
    else
      match sextet? c with
      | none => decodeFrom left pads rest
      | some n =>
        match left with
        | [] => decodeFrom [n] 0 rest
        | [a] => (decodeFrom [a, n] 0 rest).map (UInt8.ofNat (a * 4 + n / 16) :: ·)
        | [a, b] => (decodeFrom [a, b, n] 0 rest).map (UInt8.ofNat (b % 16 * 16 + n / 4) :: ·)
        | _ =>
          (decodeFrom [] 0 rest).map (UInt8.ofNat (left.getLast?.getD 0 % 4 * 64 + n) :: ·)

/-- None for a text that is not ASCII or whose padding is wrong. -/
def decode? (s : String) : Option (List UInt8) :=
  if s.toList.all fun c => c.toNat < 128 then decodeFrom [] 0 s.toList else none

def hexText (bytes : List UInt8) : String :=
  String.ofList (bytes.flatMap fun b => Text.hexDigits 2 b.toNat)

end Base64
end TelemetryCheck
