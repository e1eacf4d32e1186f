import TelemetryCheck.Yaml.Quoted
import TelemetryCheck.Decimal.Numeral
import TelemetryCheck.Text.Utf8

/-!
# Tokens

The parts of a text that its structure is made of. Indentation shows in tokens that open and close
blocks. The last token may stand for a problem; what comes before it can be used.
-/

namespace TelemetryCheck
namespace Yaml

/-- The name of a tag: a handle that stands for the beginning of the name, and the rest. -/
structure TagName where
  handle : Option String
  suffix : String
  deriving Repr, DecidableEq

inductive Directive
  | version (major minor : Nat)
  | tag (handle expansion : String)
  | other
  deriving Repr, DecidableEq

inductive Token
  | directive (d : Directive)
  | documentStart
  | documentEnd
  | streamEnd
  | blockSequence
  | blockMapping
  | blockEnd
  | flowSequence
  | flowSequenceEnd
  | flowMapping
  | flowMappingEnd
  /-- A dash. -/
  | entry
  | comma
  | key
  | value
  | reference (name : String)
  | anchor (name : String)
  | tag (name : TagName)
  | scalar (text : String) (isPlain : Bool)
  | broken (p : Problem)
  deriving Repr, DecidableEq

namespace Token

open Scan

def isNameChar (c : Char) : Bool := c.isAlphanum || c == '-' || c == '_'

/-- A name after a sign, with nothing that could belong to it behind it. -/
def takeAnchorName : Scan String := do
  skip 1
  let name ← takeWhile isNameChar
  let next ← peek
  if !name.isEmpty && (endsToken next || next.any "?:,]\x7d%@\x60".toList.contains) then
    return String.ofList name
  else malformed

/-- `!`, `!!` or `!name!`. -/
def takeHandle : Scan String := do
  expect '!'
  if (← peek) = some ' ' then return "!"
  else
    let name ← takeWhile isNameChar
    expect '!'
    return String.ofList ('!' :: name ++ ['!'])

/-- The bytes of characters that are written as a percent sign and two digits. -/
def takeBytes : Nat → Scan (List UInt8)
  | 0 => return []
  | fuel + 1 => do
    if (← peek) = some '%' then
      skip 1
      let digits := (← get).rest.take 2
      match digits.length, Quoted.hexValue digits with
      | 2, some n =>
        skip 2
        return UInt8.ofNat n :: (← takeBytes fuel)
      | _, _ => malformed
    else return []

def isSuffixChar (c : Char) : Bool :=
  c.isAlphanum || "-;/?:@&=+$,_.!~*'()[]".toList.contains c

def suffixChars : Nat → Scan (List Char)
  | 0 => return []
  | fuel + 1 => do
    match ← peek with
    | some '%' =>
      match Text.decodeStrict (← takeBytes (← remaining)) with
      | .ok chars => return chars ++ (← suffixChars fuel)
      | .error _ => malformed
    | some c =>
      if isSuffixChar c then
        skip 1
        return c :: (← suffixChars fuel)
      else return []
    | none => return []

/-- The name of a tag, or the end of one; it is not empty. -/
def takeSuffix : Scan String := do
  if (← peek).any fun c => c == '%' || isSuffixChar c then
    return String.ofList (← suffixChars (← remaining))
  else malformed

/-- A tag without a name, a name in full between angle brackets, or a handle with a suffix. -/
def takeTagName : Scan TagName := do
  let next ← peekAt 1
  let name ← if next = some '<' then do
      skip 2
      let suffix ← takeSuffix
      expect '>'
      pure (TagName.mk none suffix)
    else if endsToken next then do
      skip 1
      pure (TagName.mk none "!")
    else do
      let rest := ((← get).rest.drop 1).takeWhile fun c => !endsName (some c)
      let handle ← if rest.contains '!' then takeHandle else do
        skip 1
        pure "!"
      pure (TagName.mk (some handle) (← takeSuffix))
  if endsName (← peek) then return name else malformed

def takeNumber : Scan Nat := do
  let digits ← takeWhile Char.isDigit
  if digits.isEmpty then malformed
  else if Decimal.maxIntegerDigits < digits.length then
    throw (.fault (.integerTooLong digits.length))
  else return Text.digitsValue digits

def takeVersion : Scan Directive := do
  let _ ← takeWhile (· == ' ')
  let major ← takeNumber
  expect '.'
  let minor ← takeNumber
  if endsName (← peek) then return .version major minor else malformed

def takeTagDirective : Scan Directive := do
  let _ ← takeWhile (· == ' ')
  let handle ← takeHandle
  if (← peek) ≠ some ' ' then malformed
  else
    let _ ← takeWhile (· == ' ')
    let expansion ← takeSuffix
    if endsName (← peek) then return .tag handle expansion else malformed

/-- A line that begins with a percent sign; unknown directives are ignored. -/
def takeDirective : Scan Directive := do
  skip 1
  let name ← takeWhile isNameChar
  if name.isEmpty || !endsName (← peek) then malformed
  else
    let directive ←
      if name = "YAML".toList then takeVersion
      else if name = "TAG".toList then takeTagDirective
      else do
        let _ ← takeWhile (!isBreak ·)
        pure .other
    endLine
    return directive

end Token
end Yaml
end TelemetryCheck
