import TelemetryCheck.Expectation
import TelemetryCheck.Failure
import TelemetryCheck.Json.Value
import TelemetryCheck.Pattern.Search

/-!
# Matching

Whether the records that were found satisfy an expectation. Records are first selected by name,
then counted, and the first of them stands for all when attributes are checked.
-/

namespace TelemetryCheck

/-- Something found: a log line or a span with its labels. -/
structure Record where
  name : String
  attributes : List (String × String) := []
  deriving Repr, DecidableEq

/-- Compiles a pattern of a definition; `what` says where it stands. -/
def compilePattern (pattern what : String) : Except Failure Pattern.Compiled :=
  match Pattern.compile pattern with
  | .ok p => .ok p
  | .error (.invalid reason position) =>
    .error (.configuration { summary :=
      "invalid " ++ what ++ " " ++ Text.quoted pattern ++ ": " ++
        Pattern.CompileError.text pattern (.invalid reason position) })
  | .error e => .error (.fault (.pattern pattern e))

/-- Whether a name is the one asked for and the pattern is found in it, as far as either is
given. -/
def nameMatches (signal : Signal) (name : String) : Except Failure Bool :=
  match given? signal.equals with
  | some e => if name ≠ e then .ok false else patternMatches
  | none => patternMatches
where
  patternMatches : Except Failure Bool :=
    match given? signal.regexp with
    | some r => (compilePattern r "regexp").map fun p => p.search name
    | none => .ok true

def filterRecords (signal : Signal) : List Record → Except Failure (List Record)
  | [] => .ok []
  | record :: rest => do
    let matched ← nameMatches signal record.name
    let more ← filterRecords signal rest
    return if matched then record :: more else more

def checkCount (range : CountRange) (count : Int) : Except Failure Unit :=
  if range.isAbsence then
    if count = 0 then .ok ()
    else
      let noun := if count = 1 then "match" else "matches"
      .error (.mismatch ("expected no matches, found " ++ Decimal.intText count ++
        " unexpected " ++ noun) none none)
  else if count < range.least ∨ (range.most ≠ 0 ∧ range.most < count) then
    .error (.mismatch ("expected " ++ range.describe ++ " matches, found " ++
      Decimal.intText count) none none)
  else .ok ()

def checkAttribute (record : Record) (key want : String) : Except Failure Unit :=
  match Json.field? key record.attributes with
  | none =>
    .error (.mismatch ("attribute " ++ Text.quoted key ++ " missing on " ++
      Text.quoted record.name ++ ", expected " ++ Text.quoted want) none none)
  | some value =>
    if value = want then .ok ()
    else
      .error (.mismatch ("attribute " ++ Text.quoted key ++ " on " ++ Text.quoted record.name ++
        ": expected " ++ Text.quoted want ++ ", got " ++ Text.quoted value) none none)

def checkAttributeRegexp (record : Record) (key pattern : String) : Except Failure Unit :=
  match Json.field? key record.attributes with
  | none =>
    .error (.mismatch ("attribute " ++ Text.quoted key ++ " missing on " ++
      Text.quoted record.name ++ ", expected to match " ++ Text.quoted pattern) none none)
  | some value => do
    let p ← compilePattern pattern "attribute-regexp"
    if p.search value then .ok ()
    else
      .error (.mismatch ("attribute " ++ Text.quoted key ++ " on " ++ Text.quoted record.name ++
        ": " ++ Text.quoted value ++ " does not match " ++ Text.quoted pattern) none none)

def shownKeys (keys : List String) : String :=
  "[" ++ ", ".intercalate (((keys.mergeSort fun a b => a ≤ b)).map Text.quoted) ++ "]"

def Signal.allowedKeys (signal : Signal) : List String :=
  let exact := signal.attributes.map (·.1)
  exact ++ (signal.attributeRegexp.map (·.1)).filter fun k => !exact.contains k

def checkNoExtra (signal : Signal) (record : Record) : Except Failure Unit :=
  let actual := record.attributes.map (·.1)
  let extra := actual.filter fun k => !signal.allowedKeys.contains k
  let missing := signal.allowedKeys.filter fun k => !actual.contains k
  if extra.isEmpty && missing.isEmpty then .ok ()
  else
    .error (.mismatch ("attributes of " ++ Text.quoted record.name ++
      " do not match exactly: unexpected " ++ shownKeys extra ++ ", missing " ++
      shownKeys missing) none none)

/-- Checks the attributes of the record that stands for all matches. -/
def checkAttributes (signal : Signal) (record : Record) : Except Failure Unit := do
  signal.attributes.forM fun (key, want) => checkAttribute record key want
  signal.attributeRegexp.forM fun (key, pattern) => checkAttributeRegexp record key pattern
  if signal.noExtraAttributes then checkNoExtra signal record

/-- The records that match, if their number and the attributes of the first are as expected. -/
def matchSignal (signal : Signal) (found : List Record) : Except Failure (List Record) := do
  let matched ← filterRecords signal found
  checkCount signal.expectedRange matched.length
  if signal.expectAbsent then return matched
  match matched with
  | [] => throw (.fault .noMatch)
  | first :: _ =>
    checkAttributes signal first
    return matched

def wantedName (equals regexp : Option String) : String :=
  match given? equals with
  | some e => Text.quoted e
  | none => "regexp " ++ (regexp.map Text.quoted).getD "None"

def isWantedName (equals : Option String) (pattern : Option Pattern.Compiled) (name : String) :
    Bool :=
  given? equals == some name || pattern.elim false fun p => p.search name

/-- The first name that is the one asked for or has the pattern in it. -/
def matchName (equals regexp : Option String) (names : List String) : Except Failure String := do
  let pattern ← match given? regexp with
    | some r => (compilePattern r "regexp").map some
    | none => pure none
  match names.find? (isWantedName equals pattern) with
  | some name => return name
  | none =>
    throw (.mismatch ("no name matching " ++ wantedName equals regexp ++ " among " ++
      Decimal.natText names.length ++ " names") none none)

/-- Whether an expectation with a matrix condition applies to a variant. No condition, or an
empty one, always applies. -/
def matchesMatrix (condition variant : Option String) : Bool :=
  match given? condition with
  | none => true
  | some c => variant == some c

end TelemetryCheck
