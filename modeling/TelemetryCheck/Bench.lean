import TelemetryCheck.Action
import TelemetryCheck.Files
import TelemetryCheck.Journal

namespace TelemetryCheck

open Json (Value)

/-- What a run sees and changes: files, the journal, and the world outside. -/
structure Bench (ω : Type) where
  world : ω
  files : Files := {}
  journal : Journal := {}

namespace Bench

variable {ω ρ α : Type}

def log (level : Level) (name : String) (fields : List (String × Value)) :
    Action (Bench ω) Unit :=
  modify fun b => { b with journal := b.journal.log ⟨level, name, fields⟩ }

def ask (question : Files → Except Fault α) : Action (Bench ω) α := do
  Action.ofFault (question (← get).files)

def change (act : Files → Except Fault Files) : Action (Bench ω) Unit := do
  let files ← ask act
  modify fun b => { b with files := files }

def withWorld (world : ρ) (b : Bench ω) : Bench ρ := ⟨world, b.files, b.journal⟩

def amendSpan (index : Nat) (change : Span → Span) : Action (Bench ω) Unit :=
  modify fun b => { b with journal := b.journal.amend index change }

/-- Runs a body as a span, which it knows by its number. A failure marks the span, an interrupt
does not. -/
def withSpan (name : String) (attributes : List (String × Value))
    (body : Nat → Action (Bench ω) α) : Action (Bench ω) α := do
  let index := (← get).journal.spans.size
  modify fun b => { b with journal := b.journal.begin { name, attributes } }
  tryCatch (body index) fun failure => do
    unless failure.isInterrupt do
      amendSpan index fun s =>
        (s.setError failure.message).setAttribute "exception.type" (.str failure.kindName)
    throw failure

theorem runFrom_ask (question : Files → Except Fault α) (b : Bench ω) :
    (ask question).runFrom b =
      (match question b.files with
        | .ok a => .ok a
        | .error f => .error (.fault f), b) := by
  show (Action.ofFault (question b.files)).runFrom b = _
  cases question b.files <;> rfl

/-- A question that has an answer changes nothing. -/
theorem runFrom_ask_bind {β : Type} {question : Files → Except Fault α} {a : α} {b : Bench ω}
    (h : question b.files = .ok a) (next : α → Action (Bench ω) β) :
    (ask question >>= next).runFrom b = (next a).runFrom b := by
  rw [Action.runFrom_bind, runFrom_ask, h]

theorem runFrom_ask_bind_error {β : Type} {question : Files → Except Fault α} {f : Fault}
    {b : Bench ω} (h : question b.files = .error f) (next : α → Action (Bench ω) β) :
    (ask question >>= next).runFrom b = (.error (.fault f), b) := by
  rw [Action.runFrom_bind, runFrom_ask, h]

end Bench
end TelemetryCheck
