import TelemetryCheck.Data
import TelemetryCheck.Duration
import TelemetryCheck.Failure
import TelemetryCheck.Json.Value
import TelemetryCheck.Text.Utf8

/-!
# Conversion

Data is converted to what a definition means field by field. Every complaint is collected, each
with the keys and indices that lead to it.
-/

namespace TelemetryCheck
namespace Conversion

structure Complaint where
  location : List String
  message : String
  deriving Repr, DecidableEq

/-- The place and the message; the whole has a place of its own. -/
def Complaint.text (c : Complaint) : String :=
  let place := ".".intercalate c.location
  (if place.isEmpty then "<root>" else place) ++ ": " ++ c.message

/-- A converted value, or everything that is wrong with it. -/
inductive Converted (α : Type)
  | ok (a : α)
  | failed (complaints : List Complaint)

namespace Converted

variable {α β : Type}

def complaints : Converted α → List Complaint
  | .ok _ => []
  | .failed cs => cs

def map (f : α → β) : Converted α → Converted β
  | .ok a => .ok (f a)
  | .failed cs => .failed cs

/-- Applies a converted function to a converted value; the complaints about both are kept. -/
def ap (f : Converted (α → β)) (a : Converted α) : Converted β :=
  match f, a with
  | .ok f, .ok a => .ok (f a)
  | f, a => .failed (f.complaints ++ a.complaints)

instance : Applicative Converted where
  pure := .ok
  map := map
  seq := fun f a => ap f (a ())

def refuse (message : String) : Converted α := .failed [⟨[], message⟩]

def under (key : String) : Converted α → Converted α
  | .ok a => .ok a
  | .failed cs => .failed (cs.map fun c => ⟨key :: c.location, c.message⟩)

def withComplaints (more : List Complaint) (a : Converted α) : Converted α :=
  match a, more with
  | .ok a, [] => .ok a
  | a, more => .failed (a.complaints ++ more)

def allOf : List (Converted α) → Converted (List α)
  | [] => .ok []
  | a :: rest => ap (a.map fun a as => a :: as) (allOf rest)

def andThen (a : Converted α) (f : α → Converted β) : Converted β :=
  match a with
  | .ok a => f a
  | .failed cs => .failed cs

def toExcept : Converted α → Except Failure α
  | .ok a => .ok a
  | .failed cs => .error (.invalid (cs.map Complaint.text))

end Converted

open Converted

/-- A text; a number counts as the text that writes it. -/
def text : Data → Converted String
  | .text s => .ok s
  | .int i => .ok (Decimal.intText i)
  | .float x => .ok (Decimal.floatText x)
  | .binary bytes =>
    match Text.decodeStrict bytes with
    | .ok cs => .ok (String.ofList cs)
    | .error _ => refuse "Input should be a valid string, unable to parse raw data as a unicode string"
  | _ => refuse "Input should be a valid string"

def optional {α : Type} (convert : Data → Converted α) : Data → Converted (Option α)
  | .null => .ok none
  | d => (convert d).map some

/-- The items of data that can stand for a list. -/
def items? : Data → Option (List Data)
  | .list items => some items
  | .set items => some items
  | .tuple items => some items
  | _ => none

def listOf {α : Type} (convert : Data → Converted α) (d : Data) : Converted (List α) :=
  match items? d with
  | some items => allOf (items.mapIdx fun i item => (convert item).under (toString i))
  | none => refuse "Input should be a valid list"

/-- Later entries replace earlier ones with the same key. -/
def joinEntries (entries : List (String × String)) : List (String × String) :=
  entries.foldl (fun done p => Json.setField p.1 p.2 done) []

def texts : Data → Converted (List (String × String))
  | .record entries =>
    (allOf (entries.map fun (key, value) =>
      ap (((text key).under "[key]").under key.placeText |>.map Prod.mk)
        ((text value).under key.placeText))).map joinEntries
  | _ => refuse "Input should be a valid dictionary"

def maxTextDigits : Nat := 4300

/-- Digits with single underscores between them. -/
def isGroupedDigits : List Char → Bool
  | [] => false
  | [c] => c.isDigit
  | c :: '_' :: rest => c.isDigit && isGroupedDigits rest
  | c :: rest => c.isDigit && isGroupedDigits rest

/-- Reads an integer: blanks around it, a sign, digits with single underscores between them, and
a fraction of zeros that does not count. -/
def integerText (s : String) : Converted Int :=
  if maxTextDigits < s.length then
    refuse "Unable to parse input string as an integer, exceeded maximum size"
  else
    let (negative, rest) := Decimal.takeSign (Text.trim s.toList)
    let whole := rest.takeWhile (· ≠ '.')
    let fraction := (rest.dropWhile (· ≠ '.')).drop 1
    if isGroupedDigits whole && fraction.all (· == '0') then
      let value : Int := Text.digitsValue (whole.filter (· ≠ '_'))
      .ok (if negative then -value else value)
    else refuse "Input should be a valid integer, unable to parse string as an integer"

/-- The integers that a float is converted to are smaller than this one in size. -/
def integerLimit : Nat := Nat.pow 2 63

inductive FloatInteger
  | integer (i : Int)
  | notFinite
  | fraction
  | tooLarge

def floatInteger (x : Float) : FloatInteger :=
  if !Decimal.isFinite x then .notFinite
  else
    match Decimal.integer? x with
    | none => .fraction
    | some i => if i.natAbs < integerLimit then .integer i else .tooLarge

def integer : Data → Converted Int
  | .bool b => .ok (if b then 1 else 0)
  | .int i => .ok i
  | .float x =>
    match floatInteger x with
    | .integer i => .ok i
    | .notFinite => refuse "Input should be a finite number"
    | .fraction => refuse "Input should be a valid integer, got a number with a fractional part"
    | .tooLarge => refuse "Unable to parse input string as an integer, exceeded maximum size"
  | .text s => integerText s
  | .binary bytes => integerText (Text.decodeLossy bytes)
  | _ => refuse "Input should be a valid integer"

def falseWords : List String := ["0", "off", "f", "false", "n", "no"]

def trueWords : List String := ["1", "on", "t", "true", "y", "yes"]

def unclearBoolean {α : Type} : Converted α :=
  refuse "Input should be a valid boolean, unable to interpret input"

def booleanText (s : String) : Converted Bool :=
  let word := String.ofList (Decimal.lowerAscii s.toList)
  if falseWords.contains word then .ok false
  else if trueWords.contains word then .ok true
  else unclearBoolean

def booleanInteger (i : Int) : Converted Bool :=
  if i = 0 then .ok false else if i = 1 then .ok true else unclearBoolean

def boolean : Data → Converted Bool
  | .bool b => .ok b
  | .int i => booleanInteger i
  | .float x =>
    match floatInteger x with
    | .integer i => booleanInteger i
    | _ => refuse "Input should be a valid boolean"
  | .text s => booleanText s
  | .binary bytes => booleanText (Text.decodeLossy bytes)
  | _ => refuse "Input should be a valid boolean"

/-- A number; an integer must be in the range of the doubles. -/
def number : Data → Converted Float
  | .bool b => .ok (if b then 1.0 else 0.0)
  | .int i =>
    let x := Decimal.ofInt i
    if Decimal.isFinite x then .ok x else refuse "Input should be a valid number"
  | .float x => .ok x
  | _ => refuse "Input should be a valid number"

def duration (s : String) : Converted Float :=
  match Duration.parse s with
  | .ok x => .ok x
  | .error e => refuse ("Value error, " ++ e)

/-- Seconds between two attempts: a duration or a number, not negative. -/
def interval : Data → Converted (Option Float)
  | .null => .ok none
  | d =>
    let seconds := match d with
      | .text s => duration s
      | d => number d
    seconds.andThen fun x =>
      if x ≥ 0.0 then .ok (some x) else refuse "Input should be greater than or equal to 0"

def bounded (low high : Nat) (d : Data) : Converted Nat :=
  (integer d).andThen fun i =>
    if i < low then refuse ("Input should be greater than or equal to " ++ Decimal.natText low)
    else if high < i then refuse ("Input should be less than or equal to " ++ Decimal.natText high)
    else .ok i.toNat

/-- A field: its name, and the key that files usually write. -/
structure FieldKey where
  name : String
  dashed : String
  deriving Repr, DecidableEq

/-- A field that is written under its own name. -/
def FieldKey.plain (name : String) : FieldKey := ⟨name, name⟩

abbrev Entries := List (Data × Data)

def lookup? (key : String) : Entries → Option Data
  | [] => none
  | (.text k, value) :: rest => if k = key then some value else lookup? key rest
  | _ :: rest => lookup? key rest

/-- The key under which a field is given: the one that files usually write counts first. -/
def writtenKey? (key : FieldKey) (entries : Entries) : Option String :=
  if (lookup? key.dashed entries).isSome then some key.dashed
  else if (lookup? key.name entries).isSome then some key.name
  else none

def field {α : Type} (entries : Entries) (key : FieldKey) (absent : α)
    (convert : Data → Converted α) : Converted α :=
  match writtenKey? key entries with
  | none => .ok absent
  | some written =>
    match lookup? written entries with
    | none => .ok absent
    | some d => (convert d).under written

/-- Complaints about entries that belong to no field, in order. -/
def unknownKeys (keys : List FieldKey) (entries : Entries) : List Complaint :=
  let used := keys.filterMap fun key => writtenKey? key entries
  entries.filterMap fun (key, _) =>
    match key with
    | .text k => if used.contains k then none else some ⟨[k], "Extra inputs are not permitted"⟩
    | key => some ⟨[key.placeText], "Keys should be strings"⟩

/-- Converts a record that may hold only the given fields. -/
def strict {α : Type} (what : String) (keys : List FieldKey) (build : Entries → Converted α) :
    Data → Converted α
  | .record entries => (build entries).withComplaints (unknownKeys keys entries)
  | _ => refuse ("Input should be a valid dictionary or instance of " ++ what)

/-- Converts a record that may hold other fields too. -/
def loose {α : Type} (what : String) (build : Entries → Converted α) : Data → Converted α
  | .record entries => build entries
  | _ => refuse ("Input should be a valid dictionary or instance of " ++ what)

end Conversion
end TelemetryCheck
