import TelemetryCheck.Action
import TelemetryCheck.Time

/-!
# Polling

An attempt is made again and again until it succeeds or a deadline passes. A retryable failure
means "not yet"; any other failure ends the polling at once.
-/

namespace TelemetryCheck

/-- A clock to read and to wait by. Reading it may change what it shows next. -/
structure Clock (σ τ : Type) where
  now : StateM σ τ
  sleep : τ → Action σ Unit

structure PollResult (τ : Type) where
  passed : Bool
  iterations : Nat
  elapsed : τ
  lastError : Option Retryable
  description : String
  timeout : τ

def PollResult.overdue {τ : Type} [Time τ] (r : PollResult τ) : Overdue :=
  ⟨r.description, Time.toSeconds r.timeout, r.lastError, r.iterations⟩

namespace Polling

/-- What is polled, and how: the deadline counts from the start of the polling. -/
structure Plan (σ τ : Type) where
  attempt : Action σ Unit
  deadline : τ
  interval : τ
  description : String := "condition"
  /-- Told the number of attempts, the time since the start and the error after each failure. -/
  onRetry : Nat → τ → Retryable → Action σ Unit := fun _ _ _ => pure ()

variable {σ τ : Type} [Time τ]

/-- Waits for the interval, but not beyond the deadline. -/
def pause (clock : Clock σ τ) (plan : Plan σ τ) (elapsed : τ) : Action σ Unit := do
  let wait := Time.least plan.interval (plan.deadline - elapsed)
  if 0 < wait then clock.sleep wait

/-- The rounds after `iterations` attempts, of which the last ended in `last`. The deadline is
looked at before each attempt but the first. -/
def rounds (clock : Clock σ τ) (plan : Plan σ τ) (start : τ) :
    Nat → Nat → Option Retryable → Action σ (PollResult τ)
  | 0, _, _ => throw .unfinished
  | fuel + 1, iterations, last => do
    let elapsed := (← Action.always clock.now) - start
    if 0 < iterations ∧ plan.deadline ≤ elapsed then
      return ⟨false, iterations, elapsed, last, plan.description, plan.deadline⟩
    match ← plan.attempt.attempt with
    | none =>
      let elapsed := (← Action.always clock.now) - start
      return ⟨true, iterations + 1, elapsed, last, plan.description, plan.deadline⟩
    | some error =>
      let elapsed := (← Action.always clock.now) - start
      plan.onRetry (iterations + 1) elapsed error
      pause clock plan elapsed
      rounds clock plan start fuel (iterations + 1) (some error)

/-- Polls for at most `fuel` rounds; a polling that takes more is left unfinished. -/
def poll (clock : Clock σ τ) (plan : Plan σ τ) (fuel : Nat) : Action σ (PollResult τ) := do
  let start ← Action.always clock.now
  rounds clock plan start fuel 0 none

end Polling
end TelemetryCheck
