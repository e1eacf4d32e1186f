import TelemetryCheck.Decimal.Written
import TelemetryCheck.Failure

/-!
# Dates and points in time

Days of the Gregorian calendar, and times of day with or without a zone.
-/

namespace TelemetryCheck
namespace Calendar

def isLeap (year : Nat) : Bool := year % 4 == 0 && (year % 100 != 0 || year % 400 == 0)

def daysInMonth (year month : Nat) : Nat :=
  if month = 2 then if isLeap year then 29 else 28
  else if month = 4 ∨ month = 6 ∨ month = 9 ∨ month = 11 then 30
  else 31

structure Date where
  year : Nat
  month : Nat
  day : Nat
  deriving Repr, DecidableEq

structure Moment where
  date : Date
  hour : Nat
  minute : Nat
  second : Nat
  microsecond : Nat
  /-- Seconds ahead of universal time, where the zone is known. -/
  offset : Option Int
  deriving Repr, DecidableEq

def require (condition : Bool) (text : String) : Except Fault Unit :=
  if condition then .ok () else .error (.calendar text)

def Date.checked (d : Date) : Except Fault Date := do
  require (1 ≤ d.year && d.year ≤ 9999)
    ("year " ++ Decimal.natText d.year ++ " is out of range")
  require (1 ≤ d.month && d.month ≤ 12) "month must be in 1..12"
  require (1 ≤ d.day && d.day ≤ daysInMonth d.year d.month) "day is out of range for month"
  return d

/-- A number of seconds, with whole days apart; a negative one counts on from the day before. -/
def spanText (seconds : Int) : String :=
  let days := Int.fdiv seconds 86400
  let rest := Int.fmod seconds 86400
  let parts := (if days = 0 then [] else ["days=" ++ Decimal.intText days]) ++
    if rest = 0 then [] else ["seconds=" ++ Decimal.intText rest]
  "datetime.timedelta(" ++ (if parts.isEmpty then "0" else ", ".intercalate parts) ++ ")"

/-- Zones are less than a day away from universal time. -/
def checkOffset (seconds : Int) : Except Fault Unit :=
  require (-86400 < seconds && seconds < 86400)
    ("offset must be a timedelta strictly between -timedelta(hours=24) and timedelta(hours=24), " ++
      "not " ++ spanText seconds ++ ".")

/-- The moment, if its zone, its day and its time of day exist; the zone is looked at first. -/
def Moment.checked (m : Moment) : Except Fault Moment := do
  match m.offset with
  | some seconds => checkOffset seconds
  | none => pure ()
  let _ ← m.date.checked
  require (m.hour ≤ 23) "hour must be in 0..23"
  require (m.minute ≤ 59) "minute must be in 0..59"
  require (m.second ≤ 59) "second must be in 0..59"
  return m

def numbersText (numbers : List Nat) : String := ", ".intercalate (numbers.map Decimal.natText)

def Date.shown (d : Date) : String := "datetime.date(" ++ numbersText [d.year, d.month, d.day] ++ ")"

/-- Seconds and microseconds are left out from the end while they are zero. -/
def Moment.shown (m : Moment) : String :=
  let seconds :=
    if m.microsecond ≠ 0 then [m.second, m.microsecond]
    else if m.second ≠ 0 then [m.second]
    else []
  let zone := match m.offset with
    | none => ""
    | some 0 => ", tzinfo=datetime.timezone.utc"
    | some offset => ", tzinfo=datetime.timezone(" ++ spanText offset ++ ")"
  "datetime.datetime(" ++
    numbersText ([m.date.year, m.date.month, m.date.day, m.hour, m.minute] ++ seconds) ++
    zone ++ ")"

end Calendar
end TelemetryCheck
