import TelemetryCheck.Yaml.Timestamp
import TelemetryCheck.Text.Ranges

/-!
# Tags

The kind of a value. It is given by name or, for a text without quotes, follows from how the text
looks.
-/

namespace TelemetryCheck
namespace Yaml

inductive Tag
  | null
  | bool
  | int
  | float
  | binary
  | timestamp
  | orderedPairs
  | pairs
  | set
  | text
  | sequence
  | mapping
  /-- The key whose value is merged into the mapping around it. -/
  | merge
  /-- The key for the value of a mapping as a whole. -/
  | whole
  /-- A kind of which nothing is known. -/
  | unknown
  deriving Repr, DecidableEq

namespace Tag

/-- The handles that need no declaration, and what they stand for. -/
def handles : List (String × String) := [("!", "!"), ("!!", "tag:yaml.org,2002:")]

def names : List (String × Tag) :=
  [("null", .null), ("bool", .bool), ("int", .int), ("float", .float), ("binary", .binary),
    ("timestamp", .timestamp), ("omap", .orderedPairs), ("pairs", .pairs), ("set", .set),
    ("str", .text), ("seq", .sequence), ("map", .mapping), ("merge", .merge), ("value", .whole)]

def ofName (name : String) : Tag :=
  ((names.find? fun p => "tag:yaml.org,2002:" ++ p.1 == name).map (·.2)).getD .unknown

def isGrouped (c : Char) : Bool := c.isDigit || c == '_'

def dropSign : List Char → List Char
  | '-' :: rest => rest
  | '+' :: rest => rest
  | cs => cs

def colonParts : List Char → List (List Char)
  | [] => [[]]
  | c :: rest =>
    if c = ':' then [] :: colonParts rest
    else match colonParts rest with
      | [] => [[c]]
      | part :: more => (c :: part) :: more

def isSixtieth : List Char → Bool
  | [a] => a.isDigit
  | [a, b] => '0' ≤ a && a ≤ '5' && b.isDigit
  | _ => false

def isNonemptyOf (p : Char → Bool) (cs : List Char) : Bool := !cs.isEmpty && cs.all p

/-- Integers to the base two, eight, sixteen, ten and sixty. -/
def looksInt (cs : List Char) : Bool :=
  match dropSign cs with
  | '0' :: 'b' :: rest => isNonemptyOf (fun c => c == '0' || c == '1' || c == '_') rest
  | '0' :: 'x' :: rest => isNonemptyOf (fun c => (Text.hexDigit? c).isSome || c == '_') rest
  | '0' :: rest => rest.all fun c => '0' ≤ c && c ≤ '7' || c == '_'
  | c :: rest =>
    c.isDigit && match colonParts (c :: rest) with
      | [] => false
      | first :: more => first.all isGrouped && more.all isSixtieth
  | [] => false

def isExponent : List Char → Bool
  | [] => true
  | e :: sign :: digits =>
    (e == 'e' || e == 'E') && (sign == '-' || sign == '+') && isNonemptyOf Char.isDigit digits
  | _ => false

/-- Digits with a point behind or among them, and an exponent. -/
def looksDecimal (cs : List Char) : Bool :=
  cs.head?.any Char.isDigit &&
    match cs.dropWhile isGrouped with
    | '.' :: rest => isExponent (rest.dropWhile isGrouped)
    | _ => false

def looksFraction : List Char → Bool
  | '.' :: c :: rest => c.isDigit && isExponent (rest.dropWhile isGrouped)
  | _ => false

def looksSixty (cs : List Char) : Bool :=
  match cs.dropWhile (· != '.') with
  | '.' :: rest =>
    rest.all isGrouped &&
      match colonParts (cs.takeWhile (· != '.')) with
      | first :: second :: more =>
        first.head?.any Char.isDigit && first.all isGrouped && (second :: more).all isSixtieth
      | _ => false
  | _ => false

def looksFloat (cs : List Char) : Bool :=
  let body := dropSign cs
  looksDecimal body || looksFraction cs || looksSixty body ||
    [".inf", ".Inf", ".INF"].contains (String.ofList body) ||
    [".nan", ".NaN", ".NAN"].contains (String.ofList cs)

def boolWords : List String :=
  ["yes", "Yes", "YES", "no", "No", "NO", "true", "True", "TRUE", "false", "False", "FALSE",
    "on", "On", "ON", "off", "Off", "OFF"]

def nullWords : List String := ["~", "null", "Null", "NULL"]

/-- A text as it is judged: one line feed at its end does not count. -/
def judged (cs : List Char) : List Char :=
  if cs.length ≠ 1 ∧ cs.getLast? = some '\n' then cs.dropLast else cs

/-- The kind of a text without quotes. -/
def ofPlain (text : String) : Tag :=
  let cs := judged text.toList
  let word := String.ofList cs
  if boolWords.contains word then .bool
  else if looksFloat cs then .float
  else if looksInt cs then .int
  else if word = "<<" then .merge
  else if word.isEmpty || nullWords.contains word then .null
  else if Timestamp.isPlain cs then .timestamp
  else if word = "=" then .whole
  else if ["!", "&", "*"].contains word then .unknown
  else .text

end Tag
end Yaml
end TelemetryCheck
