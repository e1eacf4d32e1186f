import TelemetryCheck.Decimal.Written
import TelemetryCheck.Json.Value
import TelemetryCheck.Text.Quoted

namespace TelemetryCheck
namespace Json

def unicodeEscape (n : Nat) : List Char := ['\\', 'u'] ++ Text.hexDigits 4 n

/-- One character inside a string: only printable ASCII stands for itself. -/
def escapedChar (c : Char) : List Char :=
  if c = '"' ∨ c = '\\' then ['\\', c]
  else if c = '\n' then ['\\', 'n']
  else if c = '\r' then ['\\', 'r']
  else if c = '\t' then ['\\', 't']
  else if c = '\x08' then ['\\', 'b']
  else if c = '\x0c' then ['\\', 'f']
  else
    let n := c.toNat
    if 0x20 ≤ n ∧ n ≤ 0x7E then [c]
    else if n < 0x10000 then unicodeEscape n
    else unicodeEscape (0xD800 + (n - 0x10000) / 0x400) ++ unicodeEscape (0xDC00 + (n - 0x10000) % 0x400)

def stringText (s : String) : String :=
  String.ofList ('"' :: s.toList.flatMap escapedChar ++ ['"'])

/-- Numbers as in messages, but with words of their own for the special ones. -/
def floatText (x : Float) : String :=
  match Decimal.parts x with
  | .notANumber => "NaN"
  | .infinite negative => Decimal.signText negative ++ "Infinity"
  | .finite .. => Decimal.floatText x

def boolText (b : Bool) : String := if b then "true" else "false"

mutual

/-- The text of a value on one line, without blanks and in ASCII. -/
def compact : Value → String
  | .null => "null"
  | .bool b => boolText b
  | .int i => Decimal.intText i
  | .float x => floatText x
  | .str s => stringText s
  | .arr items => "[" ++ compactItems items ++ "]"
  | .obj fields => "\x7b" ++ compactFields fields ++ "\x7d"

def compactItems : List Value → String
  | [] => ""
  | [item] => compact item
  | item :: rest => compact item ++ "," ++ compactItems rest

def compactFields : List (String × Value) → String
  | [] => ""
  | [(key, value)] => stringText key ++ ":" ++ compact value
  | (key, value) :: rest =>
    stringText key ++ ":" ++ compact value ++ "," ++ compactFields rest

end

mutual

/-- The text of a value in messages: quoted strings, blanks after commas and colons, and the words
`None`, `True` and `False`. -/
def shown : Value → String
  | .null => "None"
  | .bool b => if b then "True" else "False"
  | .int i => Decimal.intText i
  | .float x => Decimal.floatText x
  | .str s => Text.quoted s
  | .arr items => "[" ++ shownItems items ++ "]"
  | .obj fields => "\x7b" ++ shownFields fields ++ "\x7d"

def shownItems : List Value → String
  | [] => ""
  | [item] => shown item
  | item :: rest => shown item ++ ", " ++ shownItems rest

def shownFields : List (String × Value) → String
  | [] => ""
  | [(key, value)] => Text.quoted key ++ ": " ++ shown value
  | (key, value) :: rest =>
    Text.quoted key ++ ": " ++ shown value ++ ", " ++ shownFields rest

end

/-- A value as a text: a string is itself, anything else as in messages. -/
def plainText : Value → String
  | .str s => s
  | value => shown value

end Json
end TelemetryCheck
