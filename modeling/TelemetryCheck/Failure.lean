import TelemetryCheck.Body
import TelemetryCheck.Decimal.Numeral
import TelemetryCheck.Decimal.Written
import TelemetryCheck.Pattern.Tree
import TelemetryCheck.Text.Quoted

/-!
# Failures

What can go wrong. A configuration failure is final; a retryable one means "not yet" and is tried
again until the deadline; a fault is a condition that no rule of the harness expects.
-/

namespace TelemetryCheck

/-- Conditions outside the rules of the harness. Kinds of values are named as messages name
them. -/
inductive Fault
  | noMatch
  | infiniteInteger
  | undefinedInteger
  | integerText (base : Nat) (text : String)
  | integerTooLong (digits : Nat)
  | floatText (text : String)
  | floatTooLarge
  | notIntegral (kind : String)
  | notNumeric (kind : String)
  | notBytes (kind : String)
  | notIterable (kind : String)
  | notSearchable (kind : String)
  | notSubscriptable (kind : String)
  | textSubscript
  | listSubscript
  | notJoinable (index : Nat)
  | unhashable (kind : String)
  | notRecord (kind : String)
  | missingKey (shown : String)
  | encoding (e : Text.Utf8Error)
  | duration (text : String)
  | calendar (text : String)
  /-- A number without any digit. -/
  | emptyNumber
  /-- A text that is no point in time. -/
  | notMoment
  /-- A number that no character has. -/
  | noCharacter (code : Nat)
  | pattern (pattern : String) (e : Pattern.CompileError)
  | outsideBase (path base : String)
  | portsExhausted (count : Int)
  | noPortOffered
  | unknownLevel (level : String)
  | invalidValue (text : String)
  | interrupted
  | system (number : Nat) (text : String) (path : Option String)
  | raised (name message : String)
  deriving Repr, DecidableEq

def systemFaultName : Nat → String
  | 1 => "PermissionError"
  | 2 => "FileNotFoundError"
  | 3 => "ProcessLookupError"
  | 4 => "InterruptedError"
  | 10 => "ChildProcessError"
  | 11 => "BlockingIOError"
  | 13 => "PermissionError"
  | 17 => "FileExistsError"
  | 20 => "NotADirectoryError"
  | 21 => "IsADirectoryError"
  | 32 => "BrokenPipeError"
  | 103 => "ConnectionAbortedError"
  | 104 => "ConnectionResetError"
  | 110 => "TimeoutError"
  | 111 => "ConnectionRefusedError"
  | _ => "OSError"

def hexByte (n : Nat) : String := "0x" ++ String.ofList (Text.hexDigits 2 n)

def encodingText : Text.Utf8Error → String
  | .invalidStart b p => one b p ++ "invalid start byte"
  | .invalidContinuation b p => one b p ++ "invalid continuation byte"
  | .invalidContinuationRun p q => run p q ++ "invalid continuation byte"
  | .unexpectedEnd b p => one b p ++ "unexpected end of data"
  | .unexpectedEndRun p q => run p q ++ "unexpected end of data"
where
  one (b p : Nat) : String :=
    "'utf-8' codec can't decode byte " ++ hexByte b ++ " in position " ++ Decimal.natText p ++ ": "
  run (p q : Nat) : String :=
    "'utf-8' codec can't decode bytes in position " ++ Decimal.natText p ++ "-" ++
      Decimal.natText q ++ ": "

namespace Fault

def kindName : Fault → String
  | .noMatch | .emptyNumber => "IndexError"
  | .infiniteInteger | .floatTooLarge => "OverflowError"
  | .undefinedInteger | .integerText .. | .integerTooLong _ | .floatText _ => "ValueError"
  | .duration _ | .calendar _ | .outsideBase .. | .portsExhausted _ => "ValueError"
  | .unknownLevel _ | .invalidValue _ => "ValueError"
  | .pattern _ .tooManyRepeats => "OverflowError"
  | .pattern _ .clashingAlphabets | .pattern _ (.numberTooLong _) => "ValueError"
  | .pattern .. => "error"
  | .notIntegral _ | .notNumeric _ | .notBytes _ | .notIterable _ | .notSearchable _ => "TypeError"
  | .notSubscriptable _ | .textSubscript | .listSubscript | .unhashable _ => "TypeError"
  | .notJoinable _ => "TypeError"
  | .noCharacter code => if code < Nat.pow 2 31 then "ValueError" else "OverflowError"
  | .notRecord _ | .notMoment => "AttributeError"
  | .missingKey _ => "KeyError"
  | .noPortOffered => "StopIteration"
  | .encoding _ => "UnicodeDecodeError"
  | .interrupted => "KeyboardInterrupt"
  | .system n .. => systemFaultName n
  | .raised name _ => name

def cutQuoted (text : String) : String := String.ofList ((Text.quotedChars text.toList).take 200)

def message : Fault → String
  | .noMatch => "list index out of range"
  | .infiniteInteger => "cannot convert float infinity to integer"
  | .undefinedInteger => "cannot convert float NaN to integer"
  | .floatTooLarge => "int too large to convert to float"
  | .integerText base text =>
    "invalid literal for int() with base " ++ Decimal.natText base ++ ": " ++ cutQuoted text
  | .integerTooLong n => Decimal.tooLongText n
  | .floatText text => "could not convert string to float: " ++ Text.quoted text
  | .notIntegral kind =>
    "int() argument must be a string, a bytes-like object or a real number, not '" ++ kind ++ "'"
  | .notNumeric kind => "float() argument must be a string or a real number, not '" ++ kind ++ "'"
  | .notBytes kind =>
    "argument should be a bytes-like object or ASCII string, not '" ++ kind ++ "'"
  | .notIterable kind => "'" ++ kind ++ "' object is not iterable"
  | .notSearchable kind => "argument of type '" ++ kind ++ "' is not iterable"
  | .notSubscriptable kind => "'" ++ kind ++ "' object is not subscriptable"
  | .textSubscript => "string indices must be integers, not 'str'"
  | .listSubscript => "list indices must be integers or slices, not str"
  | .notJoinable index =>
    "sequence item " ++ Decimal.natText index ++ ": expected a bytes-like object, str found"
  | .unhashable kind => "unhashable type: '" ++ kind ++ "'"
  | .notRecord kind => "'" ++ kind ++ "' object has no attribute 'get'"
  | .missingKey shown => shown
  | .encoding e => encodingText e
  | .duration text => text
  | .calendar text => text
  | .emptyNumber => "string index out of range"
  | .notMoment => "'NoneType' object has no attribute 'groupdict'"
  | .noCharacter code =>
    if code < Nat.pow 2 31 then "chr() arg not in range(0x110000)"
    else "Python int too large to convert to C int"
  | .pattern p e => e.text p
  | .outsideBase path base =>
    Text.quoted path ++ " is not in the subpath of " ++ Text.quoted base ++
      " OR one path is relative and the other is absolute."
  | .portsExhausted count =>
    "all port sets of this allocator are in use (count=" ++ Decimal.intText count ++ ")"
  | .noPortOffered => ""
  | .unknownLevel level => "unknown log level " ++ Text.quoted level
  | .invalidValue text => text
  | .interrupted => ""
  | .system n text none => "[Errno " ++ Decimal.natText n ++ "] " ++ text
  | .system n text (some path) =>
    "[Errno " ++ Decimal.natText n ++ "] " ++ text ++ ": " ++ Text.quoted path
  | .raised _ message => message

/-- Interrupts are not taken for errors. -/
def isInterrupt : Fault → Bool
  | .interrupted => true
  | _ => false

/-- A fault inside another message: its kind with its text in quotes; a missing key is in quotes
already. -/
def shown (f : Fault) : String :=
  match f with
  | .missingKey key => f.kindName ++ "(" ++ key ++ ")"
  | _ => f.kindName ++ "(" ++ Text.quoted f.message ++ ")"

def ofIntegerError (text : List Char) : Decimal.IntegerError → Fault
  | .malformed => .integerText 10 (String.ofList text)
  | .tooLong n => .integerTooLong n

end Fault

inductive RetryKind
  | transient
  | mismatch
  | plain
  deriving Repr, DecidableEq

/-- A failure that means "not yet", with the query that was made and what was answered. -/
structure Retryable where
  kind : RetryKind
  message : String
  query : Option String := none
  response : Option Body := none
  deriving Repr, DecidableEq

namespace Retryable

def kindName (r : Retryable) : String :=
  match r.kind with
  | .transient => "TransientQueryError"
  | .mismatch => "AssertionMismatch"
  | .plain => "RetryableError"

/-- The message with the query and the beginning of the answer, where there is any. -/
def diagnostics (r : Retryable) : String :=
  let query := match r.query with
    | some q => if q.isEmpty then "" else "\nquery: " ++ q
    | none => ""
  let snippet := truncated maxSnippet r.response
  r.message ++ query ++ if snippet.isEmpty then "" else "\nresponse: " ++ snippet

end Retryable

/-- A deadline that passed; `timeout` is in seconds. -/
structure Overdue where
  description : String
  timeout : Float
  last : Option Retryable := none
  iterations : Nat := 0

def Overdue.message (o : Overdue) : String :=
  "Deadline exceeded waiting for " ++ o.description ++ " after " ++
    Decimal.fixedText 1 o.timeout ++ "s" ++
    match o.last with
    | some r => "\n" ++ r.diagnostics
    | none => ""

/-- A definition that cannot be used, with every single failure found in it. -/
structure Misconfiguration where
  summary : String
  errors : List String := []
  source : Option String := none
  deriving Repr, DecidableEq

def Misconfiguration.message (m : Misconfiguration) : String :=
  let place := match m.source with
    | some s => if s.isEmpty then "" else " (" ++ s ++ ")"
    | none => ""
  let items := m.errors.map fun e => "  - " ++ e
  m.summary ++ place ++ if items.isEmpty then "" else ":\n" ++ "\n".intercalate items

inductive Failure
  | configuration (m : Misconfiguration)
  | retryable (r : Retryable)
  | overdue (o : Overdue)
  | checksFailed (testCase : String) (failures : List String)
  /-- Values that cannot be what they are meant to be. -/
  | invalid (complaints : List String)
  /-- Something that may go on forever was cut off after as many rounds as were allowed. -/
  | unfinished
  | fault (f : Fault)

namespace Failure

def transient (message : String) (query : Option String) (response : Option Body) : Failure :=
  .retryable ⟨.transient, message, query, response⟩

def mismatch (message : String) (query : Option String) (response : Option Body) : Failure :=
  .retryable ⟨.mismatch, message, query, response⟩

def kindName : Failure → String
  | .configuration _ => "ConfigurationError"
  | .retryable r => r.kindName
  | .overdue _ => "DeadlineExceededError"
  | .checksFailed .. => "CheckFailedError"
  | .invalid _ => "ValidationError"
  | .unfinished => "Unfinished"
  | .fault f => f.kindName

def message : Failure → String
  | .configuration m => m.message
  | .retryable r => r.message
  | .overdue o => o.message
  | .checksFailed testCase failures =>
    "Test case '" ++ testCase ++ "' failed:\n" ++ "\n\n".intercalate failures
  | .invalid complaints => "; ".intercalate complaints
  | .unfinished => "not finished within the rounds allowed"
  | .fault f => f.message

/-- Failures that the harness itself defines. -/
def isHarness : Failure → Bool
  | .fault _ | .invalid _ | .unfinished => false
  | _ => true

def isRetryable : Failure → Bool
  | .retryable _ => true
  | _ => false

/-- Deadlines that passed count as time-outs. -/
def isTimeout : Failure → Bool
  | .overdue _ => true
  | _ => false

def isInterrupt : Failure → Bool
  | .fault f => f.isInterrupt
  | _ => false

end Failure
end TelemetryCheck
