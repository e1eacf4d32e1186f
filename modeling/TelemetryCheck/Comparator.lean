import TelemetryCheck.Decimal.Numeral
import TelemetryCheck.Decimal.Written
import TelemetryCheck.Failure
import TelemetryCheck.Text.Blank

/-!
# Comparators

What a metric is compared with: an operator and a number, as in `> 0`.
-/

namespace TelemetryCheck

inductive Comparator
  | less | lessOrEqual | greater | greaterOrEqual | equal | unequal
  deriving Repr, DecidableEq

namespace Comparator

def all : List Comparator := [.less, .lessOrEqual, .greater, .greaterOrEqual, .equal, .unequal]

def text : Comparator → String
  | .less => "<"
  | .lessOrEqual => "<="
  | .greater => ">"
  | .greaterOrEqual => ">="
  | .equal => "=="
  | .unequal => "!="

def ofText? (s : String) : Option Comparator := all.find? fun c => c.text == s

def holds (c : Comparator) (actual expected : Float) : Bool :=
  match c with
  | .less => actual < expected
  | .lessOrEqual => actual ≤ expected
  | .greater => actual > expected
  | .greaterOrEqual => actual ≥ expected
  | .equal => actual == expected
  | .unequal => actual != expected

end Comparator

/-- Reads an operator and a number with blanks between them. -/
def parseComparator (expression : String) : Except Misconfiguration (Comparator × Float) :=
  match Text.words expression.toList with
  | [op, raw] =>
    match Comparator.ofText? (String.ofList op) with
    | none =>
      .error { summary :=
        "invalid comparator " ++ Text.quoted (String.ofList op) ++ " in " ++
          Text.quoted expression ++ ": expected one of " ++
          ", ".intercalate (Comparator.all.map Comparator.text) }
    | some c =>
      match Decimal.readFloat? raw with
      | some x => .ok (c, x)
      | none =>
        .error { summary :=
          "invalid number " ++ Text.quoted (String.ofList raw) ++ " in " ++
            Text.quoted expression }
  | _ =>
    .error { summary :=
      "invalid metric value " ++ Text.quoted expression ++
        ": expected '<comparator> <number>', e.g. '> 0'" }

/-- Holds a metric against a comparator expression. -/
def compareMetric (expression : String) (actual : Float) : Except Failure Unit :=
  match parseComparator expression with
  | .error m => .error (.configuration m)
  | .ok (c, expected) =>
    if c.holds actual expected then .ok ()
    else
      .error (.mismatch ("expected value " ++ c.text ++ " " ++ Decimal.briefText expected ++
        ", got " ++ Decimal.briefText actual) none none)

end TelemetryCheck
