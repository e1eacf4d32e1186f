import TelemetryCheck.Base64
import TelemetryCheck.Decimal.Numeral
import TelemetryCheck.Failure
import TelemetryCheck.Json.Printer
import TelemetryCheck.Text.Line

/-!
# Attribute values

The values of span attributes are records with one field that names the kind of value. They are
loosely typed, so any JSON may stand where a kind expects something else; what that leads to is
part of the rules below.
-/

namespace TelemetryCheck

open Json (Value)

/-- An attribute value without its wrapping. The keys of a table are scalars. -/
inductive Plain
  | json (v : Value)
  | list (items : List Plain)
  | table (entries : List (Value × Plain))

namespace Plain

def str (s : String) : Plain := .json (.str s)

/-- A scalar as a key: numbers and truth values with the same value are one key. -/
inductive KeyValue
  | none
  | text (s : String)
  | integer (i : Int)
  | fraction (x : Float)

def keyValue : Value → KeyValue
  | .str s => .text s
  | .bool b => .integer (if b then 1 else 0)
  | .int i => .integer i
  | .float x =>
    match Decimal.integer? x with
    | some i => .integer i
    | .none => .fraction x
  | _ => .none

def sameKey (a b : Value) : Bool :=
  match keyValue a, keyValue b with
  | .none, .none => true
  | .text s, .text t => s == t
  | .integer i, .integer j => i == j
  | .fraction x, .fraction y => x == y
  | _, _ => false

/-- Puts an entry in place: a key that is there keeps its place and its form. -/
def setEntry (key : Value) (value : Plain) : List (Value × Plain) → List (Value × Plain)
  | [] => [(key, value)]
  | (k, v) :: rest => if sameKey k key then (k, value) :: rest else (k, v) :: setEntry key value rest

end Plain

namespace AnyValue

def kindName : Value → String
  | .null => "NoneType"
  | .bool _ => "bool"
  | .int _ => "int"
  | .float _ => "float"
  | .str _ => "str"
  | .arr _ => "list"
  | .obj _ => "dict"

/-- The names of the kinds, in the order in which they are looked for. -/
def kinds : List String :=
  ["stringValue", "boolValue", "intValue", "doubleValue", "bytesValue", "arrayValue",
    "kvlistValue"]

/-- Zero, empty and missing values count as false. -/
def truth : Value → Bool
  | .null => false
  | .bool b => b
  | .int i => i != 0
  | .float x => !(x == 0.0)
  | .str s => !s.isEmpty
  | .arr items => !items.isEmpty
  | .obj fields => !fields.isEmpty

/-- A float without its fraction. -/
def truncate (x : Float) : Except Fault Int :=
  match Decimal.parts x with
  | .notANumber => .error .undefinedInteger
  | .infinite _ => .error .infiniteInteger
  | .finite negative mantissa exponent =>
    let (num, den) := Decimal.ratioOf mantissa exponent
    .ok (if negative then -(num / den : Nat) else (num / den : Nat))

def integer : Value → Except Fault Int
  | .int i => .ok i
  | .bool b => .ok (if b then 1 else 0)
  | .float x => truncate x
  | .str s =>
    match Decimal.readInteger s.toList with
    | .ok i => .ok i
    | .error e => .error (.ofIntegerError s.toList e)
  | v => .error (.notIntegral (kindName v))

def double : Value → Except Fault Float
  | .int i =>
    let x := Decimal.ofInt i
    if Decimal.isFinite x then .ok x else .error .floatTooLarge
  | .bool b => .ok (if b then 1.0 else 0.0)
  | .float x => .ok x
  | .str s =>
    match Decimal.readFloat? s.toList with
    | some x => .ok x
    | none => .error (.floatText s)
  | v => .error (.notNumeric (kindName v))

/-- Bytes as hexadecimal digits; a text that is not in base 64 stays as it is. -/
def bytes : Value → Except Fault String
  | .str s => .ok ((Base64.decode? s).elim s Base64.hexText)
  | v => .error (.notBytes (kindName v))

/-- A text in place of a record: it must not even contain the name of a kind. -/
def plainOfText (s : String) : Except Fault Plain :=
  if kinds.any fun k => Text.occurs k.toList s.toList then .error .textSubscript
  else .ok (.str "")

def isKindName : Value → Bool
  | .str s => kinds.contains s
  | _ => false

/-- A list in place of a record: none of its items may be the name of a kind. -/
def plainOfList (items : List Value) : Except Fault Plain :=
  if items.any isKindName then .error .listSubscript else .ok (.str "")

def scalarKey : Value → Except Fault Value
  | .arr _ => .error (.unhashable "list")
  | .obj _ => .error (.unhashable "dict")
  | v => .ok v

mutual

/-- The value that a record of some kind holds. -/
def plain : Value → Except Fault Plain
  | .obj fields =>
    match kinds.find? fun k => (Json.field? k fields).isSome with
    | some kind => plainField kind fields
    | none => .ok (.str "")
  | .arr items => plainOfList items
  | .str s => plainOfText s
  | v => .error (.notSearchable (kindName v))

/-- The value in the field of a given kind. -/
def plainField (kind : String) : List (String × Value) → Except Fault Plain
  | [] => .ok (.str "")
  | (key, v) :: rest =>
    if key ≠ kind then plainField kind rest
    else
      match kind with
      | "stringValue" => .ok (.json v)
      | "boolValue" => .ok (.json (.bool (truth v)))
      | "intValue" => (integer v).map fun i => .json (.int i)
      | "doubleValue" => (double v).map fun x => .json (.float x)
      | "bytesValue" => (bytes v).map .str
      | "arrayValue" => (arrayOf v).map .list
      | _ => (tableOf v).map .table

/-- The values of an array, below its field `values`. -/
def arrayOf : Value → Except Fault (List Plain)
  | .obj fields => arrayField fields
  | v => .error (.notRecord (kindName v))

def arrayField : List (String × Value) → Except Fault (List Plain)
  | [] => .ok []
  | (key, v) :: rest => if key = "values" then arrayItems v else arrayField rest

def arrayItems : Value → Except Fault (List Plain)
  | .arr items => plainList items
  | .obj fields => fields.mapM fun (key, _) => plainOfText key
  | .str s => s.toList.mapM fun c => plainOfText (String.singleton c)
  | v => .error (.notIterable (kindName v))

def plainList : List Value → Except Fault (List Plain)
  | [] => .ok []
  | v :: rest => do return (← plain v) :: (← plainList rest)

/-- The entries of a table, below its field `values`. -/
def tableOf : Value → Except Fault (List (Value × Plain))
  | .obj fields => tableField fields
  | v => .error (.notRecord (kindName v))

def tableField : List (String × Value) → Except Fault (List (Value × Plain))
  | [] => .ok []
  | (key, v) :: rest => if key = "values" then tableItems v else tableField rest

def tableItems : Value → Except Fault (List (Value × Plain))
  | .arr items => plainEntries [] items
  | .obj fields => if fields.isEmpty then .ok [] else .error .textSubscript
  | .str s => if s.isEmpty then .ok [] else .error .textSubscript
  | v => .error (.notIterable (kindName v))

def plainEntries (done : List (Value × Plain)) :
    List Value → Except Fault (List (Value × Plain))
  | [] => .ok done
  | .obj fields :: rest =>
    match Json.field? "key" fields with
    | none => .error (.missingKey "'key'")
    | some key => do
      let value ← entryValue fields
      let key ← scalarKey key
      plainEntries (Plain.setEntry key value done) rest
  | .str _ :: _ => .error .textSubscript
  | .arr _ :: _ => .error .listSubscript
  | v :: _ => .error (.notSubscriptable (kindName v))

def entryValue : List (String × Value) → Except Fault Plain
  | [] => .ok (.str "")
  | (key, v) :: rest => if key = "value" then plain v else entryValue rest

end

/-- A key of a table inside JSON text. -/
def keyText : Value → String
  | .str s => Json.stringText s
  | v => Json.stringText (Json.compact v)

mutual

def compact : Plain → String
  | .json v => Json.compact v
  | .list items => "[" ++ compactItems items ++ "]"
  | .table entries => "\x7b" ++ compactEntries entries ++ "\x7d"

def compactItems : List Plain → String
  | [] => ""
  | [item] => compact item
  | item :: rest => compact item ++ "," ++ compactItems rest

def compactEntries : List (Value × Plain) → String
  | [] => ""
  | [(key, value)] => keyText key ++ ":" ++ compact value
  | (key, value) :: rest =>
    keyText key ++ ":" ++ compact value ++ "," ++ compactEntries rest

end

/-- A double without a fraction is written as an integer. -/
def doubleText (x : Float) : String :=
  match Decimal.integer? x with
  | some i => Decimal.intText i
  | none => Decimal.floatText x

def plainText : Plain → String
  | .json (.bool b) => Json.boolText b
  | .json (.float x) => doubleText x
  | .json (.arr items) => Json.compact (.arr items)
  | .json (.obj fields) => Json.compact (.obj fields)
  | .json v => Json.plainText v
  | p => compact p

/-- The text of an attribute value; lists and tables become JSON. -/
def text (v : Value) : Except Fault String := (plain v).map plainText

end AnyValue
end TelemetryCheck
