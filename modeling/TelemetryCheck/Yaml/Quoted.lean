import TelemetryCheck.Yaml.Place
import TelemetryCheck.Text.Ranges

/-!
# Quoted texts

Single quotes know one escape, the doubled quote; double quotes have escapes that begin with a
backslash. Both may go over several lines, which are joined.
-/

namespace TelemetryCheck
namespace Yaml
namespace Quoted

open Scan

/-- The escapes for one character. -/
def replacement? : Char → Option Char
  | '0' => some '\x00'
  | 'a' => some '\x07'
  | 'b' => some '\x08'
  | 't' | '\t' => some '\t'
  | 'n' => some '\n'
  | 'v' => some '\x0B'
  | 'f' => some '\x0C'
  | 'r' => some '\r'
  | 'e' => some '\x1B'
  | ' ' => some ' '
  | '"' => some '"'
  | '/' => some '/'
  | '\\' => some '\\'
  | 'N' => some '\u0085'
  | '_' => some '\u00A0'
  | 'L' => some '\u2028'
  | 'P' => some '\u2029'
  | _ => none

/-- The number of hexadecimal digits after a letter that announces them. -/
def digitCount? : Char → Option Nat
  | 'x' => some 2
  | 'u' => some 4
  | 'U' => some 8
  | _ => none

/-- The character with a number; halves of a pair stand for no character of their own. -/
def charOf (code : Nat) : Except Problem Char :=
  if 0x10FFFF < code then .error (.fault (.noCharacter code))
  else if 0xD800 ≤ code ∧ code ≤ 0xDFFF then .ok '\uFFFD'
  else .ok (Char.ofNat code)

def hexValue (digits : List Char) : Option Nat :=
  digits.foldlM (fun n c => (Text.hexDigit? c).map (16 * n + ·)) 0

def takeCode (count : Nat) : Scan Char := do
  let digits := (← get).rest.take count
  if digits.length < count then malformed
  else
    match hexValue digits with
    | none => malformed
    | some code =>
      skip count
      match charOf code with
      | .ok c => return c
      | .error e => throw e

/-- The ends of empty lines, with the blanks on them left out. -/
def emptyLines : Nat → Scan (List Char)
  | 0 => return []
  | fuel + 1 => do
    if ← atSeparator then malformed
    else
      let _ ← takeWhile isGap
      match ← takeBreak with
      | [] => return []
      | line => return line ++ (← emptyLines fuel)

def escape : Scan (List Char) := do
  skip 1
  match ← peek with
  | none => malformed
  | some c =>
    match replacement? c, digitCount? c with
    | some r, _ =>
      skip 1
      return [r]
    | none, some count =>
      skip 1
      return [← takeCode count]
    | none, none =>
      if isBreak c then
        let _ ← takeBreak
        emptyLines (← remaining)
      else malformed

/-- Characters up to a blank, the end of the line or the closing quote. -/
def run (quote : Char) : Nat → Scan (List Char)
  | 0 => return []
  | fuel + 1 => do
    match ← peek with
    | none => return []
    | some c =>
      if isGap c || isBreak c then return []
      else if c = quote then
        if quote = '\'' && (← peekAt 1) = some '\'' then
          skip 2
          return c :: (← run quote fuel)
        else return []
      else if quote = '"' && c = '\\' then
        let escaped ← escape
        return escaped ++ (← run quote fuel)
      else
        skip 1
        return c :: (← run quote fuel)

/-- Blanks between characters stay, blanks around the end of a line go. -/
def gap : Scan (List Char) := do
  let blanks ← takeWhile isGap
  match ← peek with
  | none => malformed
  | some _ =>
    match ← takeBreak with
    | [] => return blanks
    | first => return joinedBreaks first (← emptyLines (← remaining))

def content (quote : Char) : Nat → Scan (List Char)
  | 0 => malformed
  | fuel + 1 => do
    if (← peek) = some quote then
      skip 1
      return []
    else
      let blanks ← gap
      let chars ← run quote (← remaining)
      return blanks ++ chars ++ (← content quote fuel)

/-- A text in the quotes at whose first one reading stands. -/
def take (quote : Char) : Scan (List Char) := do
  skip 1
  let first ← run quote (← remaining)
  return first ++ (← content quote (← remaining))

end Quoted
end Yaml
end TelemetryCheck
