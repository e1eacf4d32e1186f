namespace TelemetryCheck
namespace Text

def hexDigit? (c : Char) : Option Nat :=
  if '0' ≤ c ∧ c ≤ '9' then some (c.toNat - 48)
  else if 'a' ≤ c ∧ c ≤ 'f' then some (c.toNat - 87)
  else if 'A' ≤ c ∧ c ≤ 'F' then some (c.toNat - 55)
  else none

/-- The value of a run of hexadecimal digits; other characters count as zero. -/
def hexValue (cs : List Char) : Nat :=
  cs.foldl (fun n c => 16 * n + (hexDigit? c).getD 0) 0

/-- The pieces of a text between the occurrences of a character, so always at least one. -/
def splitAt (sep : Char) : List Char → List (List Char)
  | [] => [[]]
  | c :: rest =>
    if c = sep then [] :: splitAt sep rest
    else match splitAt sep rest with
      | [] => [[c]]
      | piece :: pieces => (c :: piece) :: pieces

/-- A set of code points as increasing ranges, both ends included. -/
structure Ranges where
  bounds : Array (Nat × Nat)

namespace Ranges

def ofRange (item : List Char) : Nat × Nat :=
  match splitAt '-' item with
  | [first, last] => (hexValue first, hexValue last)
  | _ => (hexValue item, hexValue item)

/-- Reads ranges in the notation `41-5A AA`: hexadecimal ends, blanks between ranges. -/
def ofText (s : String) : Ranges :=
  ⟨(((splitAt ' ' s.toList).filter (· ≠ [])).map ofRange).toArray⟩

def search (bounds : Array (Nat × Nat)) (n lo hi : Nat) : Bool :=
  if _h : lo < hi then
    let mid := (lo + hi) / 2
    match bounds[mid]? with
    | none => false
    | some (first, last) =>
      if n < first then search bounds n lo mid
      else if last < n then search bounds n (mid + 1) hi
      else true
  else false
termination_by hi - lo

def mem (r : Ranges) (n : Nat) : Bool := search r.bounds n 0 r.bounds.size

end Ranges
end Text
end TelemetryCheck
