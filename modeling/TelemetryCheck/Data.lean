import TelemetryCheck.Calendar
import TelemetryCheck.Text.Quoted

/-!
# Data

What a configuration file holds once it is read, before it is known what it should mean.
-/

namespace TelemetryCheck

inductive Data
  | null
  | bool (b : Bool)
  | int (i : Int)
  | float (x : Float)
  | text (s : String)
  | binary (bytes : List UInt8)
  | date (d : Calendar.Date)
  | moment (m : Calendar.Moment)
  | list (items : List Data)
  | set (items : List Data)
  /-- Items that only stand together, as the pairs of an ordered mapping do. -/
  | tuple (items : List Data)
  | record (entries : List (Data × Data))

namespace Data

def byteChars (b : UInt8) : List Char :=
  let n := b.toNat
  if n = 0x5C then ['\\', '\\']
  else if n = 0x27 then ['\\', '\'']
  else if n = 10 then ['\\', 'n']
  else if n = 13 then ['\\', 'r']
  else if n = 9 then ['\\', 't']
  else if 0x20 ≤ n ∧ n ≤ 0x7E then [Char.ofNat n]
  else ['\\', 'x'] ++ Text.hexDigits 2 n

def bytesText (bytes : List UInt8) : String :=
  "b'" ++ String.ofList (bytes.flatMap byteChars) ++ "'"

def placeText : Data → String
  | .text s => s
  | .int i => Decimal.intText i
  | .bool b => if b then "1" else "0"
  | .float x => Decimal.floatText x
  | .null => "None"
  | .binary bytes => bytesText bytes
  | .date d => d.shown
  | .moment m => m.shown
  | .list _ | .set _ | .tuple _ | .record _ => "?"

def kindName : Data → String
  | .null => "NoneType"
  | .bool _ => "bool"
  | .int _ => "int"
  | .float _ => "float"
  | .text _ => "str"
  | .binary _ => "bytes"
  | .date _ => "date"
  | .moment _ => "datetime"
  | .list _ => "list"
  | .set _ => "set"
  | .tuple _ => "tuple"
  | .record _ => "dict"

end Data
end TelemetryCheck
