import TelemetryCheck.Bench
import TelemetryCheck.Body

/-!
# Query log

Every query and what was answered, line by line in a file. When asked to speak up, the log also
puts the beginning of a line into the journal.
-/

namespace TelemetryCheck

/-- A query log; without a file, lines are dropped. -/
structure QueryLog where
  file : Option Path := none
  verbose : Bool := false

namespace QueryLog

variable {ω : Type}

def snippetSize : Int := 100

/-- A text with exactly one line feed at its end. -/
def ended (text : String) : String :=
  String.ofList ((text.toList.reverse.dropWhile (· = '\n')).reverse ++ ['\n'])

def line (query : String) (response : Option Body) (error : Option String) : String :=
  "query " ++ query ++ " response " ++ (response.map Body.toText).getD "" ++ " err=" ++
    error.getD "None"

def write (log : QueryLog) (text : String) : Action (Bench ω) Unit :=
  match log.file with
  | none => pure ()
  | some file => modify fun b => { b with files := b.files.append file (ended text) }

/-- Records a query; `loud` asks for a journal entry even if the log is not verbose. -/
def record (log : QueryLog) (query : String) (response : Option Body) (error : Option String)
    (loud : Bool) : Action (Bench ω) Unit := do
  let text := line query response error
  log.write text
  if log.verbose || loud then
    Bench.log .info "query_result"
      [("result", .str (truncated snippetSize (some (.text text)))),
        ("component", .str "QueryLogger")]

end QueryLog
end TelemetryCheck
