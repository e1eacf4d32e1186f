import TelemetryCheck.Decimal.Numeral
import TelemetryCheck.Json.Value
import TelemetryCheck.Text.Ranges
import TelemetryCheck.Text.Utf8

namespace TelemetryCheck
namespace Json

def skipBlanks (cs : List Char) : List Char :=
  cs.dropWhile fun c => c = ' ' ∨ c = '\n' ∨ c = '\r' ∨ c = '\t'

def isAsciiDigit (c : Char) : Bool := '0' ≤ c && c ≤ '9'

def fourHex? : List Char → Option (Nat × List Char)
  | a :: b :: c :: d :: rest => do
    let a ← Text.hexDigit? a
    let b ← Text.hexDigit? b
    let c ← Text.hexDigit? c
    let d ← Text.hexDigit? d
    pure (((a * 16 + b) * 16 + c) * 16 + d, rest)
  | _ => none

/-- The character of an escape after its backslash. Code points above U+FFFF take two escapes,
and half of such a pair stands for nothing. -/
def escape? : List Char → Option (Char × List Char)
  | 'u' :: rest => do
    let (high, rest) ← fourHex? rest
    if 0xD800 ≤ high ∧ high < 0xDC00 then
      match rest with
      | '\\' :: 'u' :: rest =>
        let (low, rest) ← fourHex? rest
        if 0xDC00 ≤ low ∧ low < 0xE000 then
          some (Char.ofNat (0x10000 + (high - 0xD800) * 0x400 + (low - 0xDC00)), rest)
        else none
      | _ => none
    else if 0xDC00 ≤ high ∧ high < 0xE000 then none
    else some (Char.ofNat high, rest)
  | '"' :: rest => some ('"', rest)
  | '\\' :: rest => some ('\\', rest)
  | '/' :: rest => some ('/', rest)
  | 'b' :: rest => some ('\x08', rest)
  | 'f' :: rest => some ('\x0c', rest)
  | 'n' :: rest => some ('\n', rest)
  | 'r' :: rest => some ('\r', rest)
  | 't' :: rest => some ('\t', rest)
  | _ => none

/-- The text of a string after its opening quote. `done` holds what was read, last first. -/
def stringRest (done : List Char) : Nat → List Char → Option (String × List Char)
  | 0, _ => none
  | _, [] => none
  | fuel + 1, c :: rest =>
    if c = '"' then some (String.ofList done.reverse, rest)
    else if c = '\\' then
      match escape? rest with
      | some (d, rest) => stringRest (d :: done) fuel rest
      | none => none
    else if c.toNat < 0x20 then none
    else stringRest (c :: done) fuel rest

/-- Digits before and after a point and an exponent, as JSON writes numbers. -/
def number? (negative : Bool) (cs : List Char) : Option (Value × List Char) :=
  let whole := cs.takeWhile isAsciiDigit
  let rest := cs.dropWhile isAsciiDigit
  if whole.isEmpty || (whole.head? = some '0' && whole.length ≠ 1) then none
  else
    let sign (i : Int) : Int := if negative then -i else i
    let (fraction, rest, pointed) :=
      match rest with
      | '.' :: rest => (rest.takeWhile isAsciiDigit, rest.dropWhile isAsciiDigit, true)
      | _ => ([], rest, false)
    if pointed && fraction.isEmpty then none
    else
      let digits := Text.digitsValue (whole ++ fraction)
      let scaled (e : Int) := Value.float (Decimal.ofScientific negative digits (e - fraction.length))
      match rest with
      | c :: after =>
        if c = 'e' ∨ c = 'E' then
          let (down, after) := Decimal.takeSign after
          let exponent := after.takeWhile isAsciiDigit
          if exponent.isEmpty then none
          else
            let e : Int := Text.digitsValue exponent
            some (scaled (if down then -e else e), after.dropWhile isAsciiDigit)
        else if pointed then some (scaled 0, rest)
        else if Decimal.maxIntegerDigits < whole.length then none
        else some (.int (sign digits), rest)
      | [] =>
        if pointed then some (scaled 0, rest)
        else if Decimal.maxIntegerDigits < whole.length then none
        else some (.int (sign digits), rest)

def word? (word : String) (value : Value) (cs : List Char) : Option (Value × List Char) :=
  if word.toList.isPrefixOf cs then some (value, cs.drop word.length) else none

section Nested

-- Containers that are not empty may be nested this deep.
variable (limit : Nat)

mutual

/-- Reads a value at the front of a text, at a given depth of nesting. -/
def readValue : Nat → Nat → List Char → Option (Value × List Char)
  | 0, _, _ => none
  | fuel + 1, depth, cs =>
    match skipBlanks cs with
    | 'n' :: rest => word? "null" .null ('n' :: rest)
    | 't' :: rest => word? "true" (.bool true) ('t' :: rest)
    | 'f' :: rest => word? "false" (.bool false) ('f' :: rest)
    | 'N' :: rest => word? "NaN" (.float Decimal.notANumber) ('N' :: rest)
    | 'I' :: rest => word? "Infinity" (.float (Decimal.infinity false)) ('I' :: rest)
    | '-' :: 'I' :: rest => word? "Infinity" (.float (Decimal.infinity true)) ('I' :: rest)
    | '-' :: rest => number? true rest
    | '"' :: rest => (stringRest [] (rest.length + 1) rest).map fun (s, rest) => (.str s, rest)
    | '[' :: rest =>
      match skipBlanks rest with
      | ']' :: rest => some (.arr [], rest)
      | rest =>
        if limit ≤ depth then none
        else (readItems fuel (depth + 1) rest).map fun (items, rest) => (.arr items, rest)
    | '\x7b' :: rest =>
      match skipBlanks rest with
      | '\x7d' :: rest => some (.obj [], rest)
      | rest =>
        if limit ≤ depth then none
        else (readFields fuel (depth + 1) [] rest).map fun (fields, rest) => (.obj fields, rest)
    | rest => number? false rest

def readItems : Nat → Nat → List Char → Option (List Value × List Char)
  | 0, _, _ => none
  | fuel + 1, depth, cs =>
    match readValue fuel depth cs with
    | none => none
    | some (item, rest) =>
      match skipBlanks rest with
      | ',' :: rest => (readItems fuel depth rest).map fun (items, rest) => (item :: items, rest)
      | ']' :: rest => some ([item], rest)
      | _ => none

/-- Reads the fields of an object up to its end; the last of two values for a key counts. -/
def readFields : Nat → Nat → List (String × Value) → List Char →
    Option (List (String × Value) × List Char)
  | 0, _, _, _ => none
  | fuel + 1, depth, done, cs =>
    match skipBlanks cs with
    | '"' :: rest =>
      match stringRest [] (rest.length + 1) rest with
      | none => none
      | some (key, rest) =>
        match skipBlanks rest with
        | ':' :: rest =>
          match readValue fuel depth rest with
          | none => none
          | some (value, rest) =>
            let done := setField key value done
            match skipBlanks rest with
            | ',' :: rest => readFields fuel depth done rest
            | '\x7d' :: rest => some (done, rest)
            | _ => none
        | _ => none
    | _ => none

end

/-- Reads a whole text as one value. -/
def readWithin (cs : List Char) : Option Value :=
  match readValue limit (2 * cs.length + 2) 0 cs with
  | some (value, rest) => if (skipBlanks rest).isEmpty then some value else none
  | none => none

end Nested

/-- How deep containers that are not empty may be nested in what is sent. -/
def maxDepth : Nat := 200

def read? (cs : List Char) : Option Value := readWithin maxDepth cs

def readBytes? (bytes : List UInt8) : Option Value :=
  match Text.decodeStrict bytes with
  | .ok cs => read? cs
  | .error _ => none

end Json
end TelemetryCheck
