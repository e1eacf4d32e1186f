import TelemetryCheck.Decimal.Written
import TelemetryCheck.Text.Quoted

/-!
# Expectations

What must be found in each kind of telemetry. A count that is not given means at least one match;
a count of zero to zero means that nothing may be found.
-/

namespace TelemetryCheck

/-- How many matches are expected, both ends included. No upper end is written as zero. -/
structure CountRange where
  least : Int := 0
  most : Int := 0
  deriving Repr, DecidableEq

namespace CountRange

def isAbsence (r : CountRange) : Bool := r.least == 0 && r.most == 0

/-- The range that stands for a count that is not given. -/
def atLeastOne : CountRange := ⟨1, 0⟩

def describe (r : CountRange) : String :=
  if r.isAbsence then "exactly 0"
  else if r.most = 0 then "at least " ++ Decimal.intText r.least
  else if r.least = r.most then "exactly " ++ Decimal.intText r.least
  else "between " ++ Decimal.intText r.least ++ " and " ++ Decimal.intText r.most

theorem isAbsence_iff (r : CountRange) : r.isAbsence = true ↔ r.least = 0 ∧ r.most = 0 := by
  simp [isAbsence]

end CountRange

/-- A text counts as given if it is there and not empty. -/
def given? (s : Option String) : Option String := s.filter fun t => !t.isEmpty

/-- Rules for a named record with attributes: a log line or a span. -/
structure Signal where
  equals : Option String := none
  regexp : Option String := none
  attributes : List (String × String) := []
  attributeRegexp : List (String × String) := []
  noExtraAttributes : Bool := false
  matrixCondition : Option String := none
  count : Option CountRange := none
  /-- No longer allowed, but still read so that it can be reported. -/
  contains : Option (List String) := none
  deriving Repr, DecidableEq

namespace Signal

def expectAbsent (s : Signal) : Bool :=
  match s.count with
  | some r => r.isAbsence
  | none => false

def expectedRange (s : Signal) : CountRange := s.count.getD CountRange.atLeastOne

def describeName (s : Signal) : String :=
  match given? s.equals, given? s.regexp with
  | some e, some r => Text.quoted e ++ " (regexp " ++ Text.quoted r ++ ")"
  | some e, none => Text.quoted e
  | none, some r => "regexp " ++ Text.quoted r
  | none, none => "any"

end Signal

structure ExpectedLogs where
  signal : Signal := {}
  logql : String := ""
  deriving Repr, DecidableEq

structure ExpectedSpan where
  name : String := ""
  deriving Repr, DecidableEq

structure ExpectedTraces where
  signal : Signal := {}
  traceql : String := ""
  /-- No longer allowed, but still read so that it can be reported. -/
  spans : Option (List ExpectedSpan) := none
  deriving Repr, DecidableEq

structure ExpectedMetrics where
  promql : String := ""
  value : String := ""
  matrixCondition : Option String := none
  deriving Repr, DecidableEq

structure Flamebearers where
  equals : Option String := none
  regexp : Option String := none
  contains : Option String := none
  deriving Repr, DecidableEq

structure ExpectedProfiles where
  query : String := ""
  flamebearers : Flamebearers := {}
  matrixCondition : Option String := none
  deriving Repr, DecidableEq

structure CustomCheck where
  script : String := ""
  matrixCondition : Option String := none
  deriving Repr, DecidableEq

structure Expected where
  composeLogs : List String := []
  logs : List ExpectedLogs := []
  traces : List ExpectedTraces := []
  metrics : List ExpectedMetrics := []
  profiles : List ExpectedProfiles := []
  customChecks : List CustomCheck := []
  deriving Repr, DecidableEq

namespace Expected

def signalCount (e : Expected) : Nat :=
  e.logs.length + e.traces.length + e.metrics.length + e.profiles.length

/-- The expectations of both, kind by kind. -/
def append (a b : Expected) : Expected where
  composeLogs := a.composeLogs ++ b.composeLogs
  logs := a.logs ++ b.logs
  traces := a.traces ++ b.traces
  metrics := a.metrics ++ b.metrics
  profiles := a.profiles ++ b.profiles
  customChecks := a.customChecks ++ b.customChecks

end Expected
end TelemetryCheck
