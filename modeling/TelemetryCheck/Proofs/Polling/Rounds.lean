import TelemetryCheck.Polling

/-!
# The course of a polling

What one round can do is said once, with the states between its parts, and everything that is shown
of a polling follows the rounds from there.
-/

namespace TelemetryCheck
namespace Polling

variable {σ τ : Type} [Time τ]

/-- Whether the deadline had passed when a round was about to begin.  It does not count before the
first attempt. -/
def Expired (plan : Plan σ τ) (start : τ) (attempts : Nat) (head : τ) : Prop :=
  0 < attempts ∧ plan.deadline ≤ head - start

/-- How rounds can go from a state, after so many attempts of which the last one failed with `last`:
the end that they come to and the state that they leave. -/
inductive Course (clock : Clock σ τ) (plan : Plan σ τ) (start : τ) :
    Nat → Option Retryable → σ → Except Failure (PollResult τ) → σ → Prop
  | cutOff {n : Nat} {last : Option Retryable} {s : σ} :
      0 < n → Course clock plan start n last s (.error .unfinished) s
  | expired {n : Nat} {last : Option Retryable} {s s₁ : σ} {head : τ} :
      clock.now.run s = (head, s₁) → Expired plan start n head →
        Course clock plan start n last s
          (.ok ⟨false, n, head - start, last, plan.description, plan.deadline⟩) s₁
  | passed {n : Nat} {last : Option Retryable} {s s₁ s₂ s₃ : σ} {head now : τ} :
      clock.now.run s = (head, s₁) → ¬Expired plan start n head →
      plan.attempt.runFrom s₁ = (.ok (), s₂) → clock.now.run s₂ = (now, s₃) →
        Course clock plan start n last s
          (.ok ⟨true, n + 1, now - start, last, plan.description, plan.deadline⟩) s₃
  | broken {n : Nat} {last : Option Retryable} {s s₁ s₂ : σ} {head : τ} {f : Failure} :
      clock.now.run s = (head, s₁) → ¬Expired plan start n head →
      plan.attempt.runFrom s₁ = (.error f, s₂) → f.isRetryable = false →
        Course clock plan start n last s (.error f) s₂
  | untold {n : Nat} {last : Option Retryable} {s s₁ s₂ s₃ s₄ : σ} {head now : τ} {e : Retryable}
      {f : Failure} :
      clock.now.run s = (head, s₁) → ¬Expired plan start n head →
      plan.attempt.runFrom s₁ = (.error (.retryable e), s₂) → clock.now.run s₂ = (now, s₃) →
      (plan.onRetry (n + 1) (now - start) e).runFrom s₃ = (.error f, s₄) →
        Course clock plan start n last s (.error f) s₄
  | roused {n : Nat} {last : Option Retryable} {s s₁ s₂ s₃ s₄ s₅ : σ} {head now : τ}
      {e : Retryable} {f : Failure} :
      clock.now.run s = (head, s₁) → ¬Expired plan start n head →
      plan.attempt.runFrom s₁ = (.error (.retryable e), s₂) → clock.now.run s₂ = (now, s₃) →
      (plan.onRetry (n + 1) (now - start) e).runFrom s₃ = (.ok (), s₄) →
      (pause clock plan (now - start)).runFrom s₄ = (.error f, s₅) →
        Course clock plan start n last s (.error f) s₅
  | again {n : Nat} {last : Option Retryable} {s s₁ s₂ s₃ s₄ s₅ s' : σ} {head now : τ}
      {e : Retryable} {ending : Except Failure (PollResult τ)} :
      clock.now.run s = (head, s₁) → ¬Expired plan start n head →
      plan.attempt.runFrom s₁ = (.error (.retryable e), s₂) → clock.now.run s₂ = (now, s₃) →
      (plan.onRetry (n + 1) (now - start) e).runFrom s₃ = (.ok (), s₄) →
      (pause clock plan (now - start)).runFrom s₄ = (.ok (), s₅) →
      Course clock plan start (n + 1) (some e) s₅ ending s' →
        Course clock plan start n last s ending s'

/-- How a round after `n` attempts can be the last one: the end that it comes to and the state that
it leaves. -/
inductive Stopped (clock : Clock σ τ) (plan : Plan σ τ) (start : τ) (n : Nat)
    (last : Option Retryable) (s : σ) : Except Failure (PollResult τ) → σ → Prop
  | expired {s₁ : σ} {head : τ} :
      clock.now.run s = (head, s₁) → Expired plan start n head →
        Stopped clock plan start n last s
          (.ok ⟨false, n, head - start, last, plan.description, plan.deadline⟩) s₁
  | passed {s₁ s₂ s₃ : σ} {head now : τ} :
      clock.now.run s = (head, s₁) → ¬Expired plan start n head →
      plan.attempt.runFrom s₁ = (.ok (), s₂) → clock.now.run s₂ = (now, s₃) →
        Stopped clock plan start n last s
          (.ok ⟨true, n + 1, now - start, last, plan.description, plan.deadline⟩) s₃
  | broken {s₁ s₂ : σ} {head : τ} {f : Failure} :
      clock.now.run s = (head, s₁) → ¬Expired plan start n head →
      plan.attempt.runFrom s₁ = (.error f, s₂) → f.isRetryable = false →
        Stopped clock plan start n last s (.error f) s₂
  | untold {s₁ s₂ s₃ s₄ : σ} {head now : τ} {e : Retryable} {f : Failure} :
      clock.now.run s = (head, s₁) → ¬Expired plan start n head →
      plan.attempt.runFrom s₁ = (.error (.retryable e), s₂) → clock.now.run s₂ = (now, s₃) →
      (plan.onRetry (n + 1) (now - start) e).runFrom s₃ = (.error f, s₄) →
        Stopped clock plan start n last s (.error f) s₄
  | roused {s₁ s₂ s₃ s₄ s₅ : σ} {head now : τ} {e : Retryable} {f : Failure} :
      clock.now.run s = (head, s₁) → ¬Expired plan start n head →
      plan.attempt.runFrom s₁ = (.error (.retryable e), s₂) → clock.now.run s₂ = (now, s₃) →
      (plan.onRetry (n + 1) (now - start) e).runFrom s₃ = (.ok (), s₄) →
      (pause clock plan (now - start)).runFrom s₄ = (.error f, s₅) →
        Stopped clock plan start n last s (.error f) s₅

/-- A round after `n` attempts whose attempt failed as well, with an error that another round
follows from the state that is reached. -/
inductive Retried (clock : Clock σ τ) (plan : Plan σ τ) (start : τ) (n : Nat) (s : σ)
    (e : Retryable) : σ → Prop
  | intro {s₁ s₂ s₃ s₄ s₅ : σ} {head now : τ} :
      clock.now.run s = (head, s₁) → ¬Expired plan start n head →
      plan.attempt.runFrom s₁ = (.error (.retryable e), s₂) → clock.now.run s₂ = (now, s₃) →
      (plan.onRetry (n + 1) (now - start) e).runFrom s₃ = (.ok (), s₄) →
      (pause clock plan (now - start)).runFrom s₄ = (.ok (), s₅) →
        Retried clock plan start n s e s₅

/-- A round is the last one, or it is followed by others; it does not depend on how many more are
allowed. -/
theorem rounds_cases (clock : Clock σ τ) (plan : Plan σ τ) (start : τ) (n : Nat)
    (last : Option Retryable) (s : σ) :
    (∃ ending s', Stopped clock plan start n last s ending s' ∧
        ∀ fuel, (rounds clock plan start (fuel + 1) n last).runFrom s = (ending, s')) ∨
      ∃ e s', Retried clock plan start n s e s' ∧
        ∀ fuel, (rounds clock plan start (fuel + 1) n last).runFrom s =
          (rounds clock plan start fuel (n + 1) (some e)).runFrom s' := by
  simp only [rounds, Action.runFrom_bind, Action.runFrom_always]
  cases hhead : clock.now.run s with
  | mk head s₁ =>
  dsimp only
  by_cases hover : 0 < n ∧ plan.deadline ≤ head - start
  · simp only [if_pos hover]
    exact .inl ⟨_, _, .expired hhead hover, fun _ => rfl⟩
  simp only [if_neg hover, Action.runFrom_bind, Action.runFrom_attempt]
  cases hattempt : plan.attempt.runFrom s₁ with
  | mk outcome s₂ =>
  cases outcome with
  | ok u => exact .inl ⟨_, _, .passed hhead hover hattempt rfl, fun _ => rfl⟩
  | error f =>
  cases f with
  | retryable e =>
    dsimp only
    simp only [Action.runFrom_bind, Action.runFrom_always]
    cases htold : (plan.onRetry (n + 1) ((clock.now.run s₂).1 - start) e).runFrom
        (clock.now.run s₂).2 with
    | mk told s₄ =>
    cases told with
    | error f => exact .inl ⟨_, _, .untold hhead hover hattempt rfl htold, fun _ => rfl⟩
    | ok u =>
    dsimp only
    cases hpause : (pause clock plan ((clock.now.run s₂).1 - start)).runFrom s₄ with
    | mk paused s₅ =>
    cases paused with
    | error f => exact .inl ⟨_, _, .roused hhead hover hattempt rfl htold hpause, fun _ => rfl⟩
    | ok u => exact .inr ⟨e, s₅, .intro hhead hover hattempt rfl htold hpause, fun _ => rfl⟩
  | _ => exact .inl ⟨_, _, .broken hhead hover hattempt rfl, fun _ => rfl⟩

/-- The induction is on the rounds allowed; each case of a round is one way to go on. -/
theorem course_rounds (clock : Clock σ τ) (plan : Plan σ τ) (start : τ) (fuel n : Nat)
    (last : Option Retryable) (s : σ) (hfuel : 0 < fuel + n) :
    Course clock plan start n last s ((rounds clock plan start fuel n last).runFrom s).1
      ((rounds clock plan start fuel n last).runFrom s).2 := by
  induction fuel generalizing n last s with
  | zero => exact .cutOff ((Nat.zero_add n).symm ▸ hfuel)
  | succ fuel ih =>
    rcases rounds_cases clock plan start n last s with
      ⟨ending, s', hstopped, hrun⟩ | ⟨e, s', hretried, hrun⟩
    · rw [hrun fuel]
      cases hstopped with
      | expired hhead hover => exact .expired hhead hover
      | passed hhead hover hattempt hnow => exact .passed hhead hover hattempt hnow
      | broken hhead hover hattempt hf => exact .broken hhead hover hattempt hf
      | untold hhead hover hattempt hnow htold => exact .untold hhead hover hattempt hnow htold
      | roused hhead hover hattempt hnow htold hpause =>
        exact .roused hhead hover hattempt hnow htold hpause
    · rw [hrun fuel]
      obtain ⟨hhead, hover, hattempt, hnow, htold, hpause⟩ := hretried
      exact .again hhead hover hattempt hnow htold hpause (ih _ _ _ (by omega))

theorem pause_eq (clock : Clock σ τ) (plan : Plan σ τ) (elapsed : τ) :
    pause clock plan elapsed =
      if 0 < Time.least plan.interval (plan.deadline - elapsed) then
        clock.sleep (Time.least plan.interval (plan.deadline - elapsed))
      else Pure.pure () := rfl

/-- Either nothing is done, or one sleep is asked for, which is then positive. -/
theorem pause_cases {clock : Clock σ τ} {plan : Plan σ τ} {elapsed : τ} {s s' : σ}
    {ending : Except Failure Unit}
    (h : (pause clock plan elapsed).runFrom s = (ending, s')) :
    (ending = .ok () ∧ s' = s) ∨
      ∃ wait, wait = Time.least plan.interval (plan.deadline - elapsed) ∧ 0 < wait ∧
        (clock.sleep wait).runFrom s = (ending, s') := by
  by_cases hwait : 0 < Time.least plan.interval (plan.deadline - elapsed)
  · rw [pause_eq, if_pos hwait] at h
    exact .inr ⟨_, rfl, hwait, h⟩
  · rw [pause_eq, if_neg hwait] at h
    cases h
    exact .inl ⟨rfl, rfl⟩

/-- A failure that is none of the polling itself: the attempt raised it, and not to be tried again,
or what is told of a failed attempt raised it, or a sleep. -/
inductive Raised (clock : Clock σ τ) (plan : Plan σ τ) (f : Failure) : Prop
  | attempt {s s' : σ} : plan.attempt.runFrom s = (.error f, s') → f.isRetryable = false →
      Raised clock plan f
  | onRetry {n : Nat} {elapsed : τ} {e : Retryable} {s s' : σ} :
      (plan.onRetry n elapsed e).runFrom s = (.error f, s') → Raised clock plan f
  | sleep {wait : τ} {s s' : σ} : (clock.sleep wait).runFrom s = (.error f, s') →
      Raised clock plan f

/-- The last round fails only with what one of its parts raised. -/
theorem Stopped.raised {clock : Clock σ τ} {plan : Plan σ τ} {start : τ} {n : Nat}
    {last : Option Retryable} {s s' : σ} {f : Failure}
    (h : Stopped clock plan start n last s (.error f) s') : Raised clock plan f := by
  cases h with
  | broken _ _ hattempt hf => exact .attempt hattempt hf
  | untold _ _ _ _ htold => exact .onRetry htold
  | roused _ _ _ _ _ hpause =>
    rcases pause_cases hpause with ⟨hquiet, -⟩ | ⟨wait, -, -, hsleep⟩
    · cases hquiet
    · exact .sleep hsleep

theorem course_poll {clock : Clock σ τ} {plan : Plan σ τ} {fuel : Nat} {s s' : σ}
    {ending : Except Failure (PollResult τ)} (hfuel : 0 < fuel)
    (h : (poll clock plan fuel).runFrom s = (ending, s')) :
    Course clock plan (clock.now.run s).1 0 none (clock.now.run s).2 ending s' := by
  unfold poll at h
  rw [Action.runFrom_bind, Action.runFrom_always] at h
  dsimp only at h
  have hcourse := course_rounds clock plan (clock.now.run s).1 fuel 0 none (clock.now.run s).2
    hfuel
  rw [h] at hcourse
  exact hcourse

/-- A round goes on in the same way whatever number of rounds is allowed after it, if what comes
after it does. -/
theorem rounds_congr {clock : Clock σ τ} {plan : Plan σ τ} {start : τ} {fuel fuel' n : Nat}
    {last : Option Retryable} {s : σ}
    (h : ∀ e s', Retried clock plan start n s e s' →
      (rounds clock plan start fuel (n + 1) (some e)).runFrom s' =
        (rounds clock plan start fuel' (n + 1) (some e)).runFrom s') :
    (rounds clock plan start (fuel + 1) n last).runFrom s =
      (rounds clock plan start (fuel' + 1) n last).runFrom s := by
  rcases rounds_cases clock plan start n last s with
    ⟨ending, s', -, hrun⟩ | ⟨e, s', hretried, hrun⟩
  · rw [hrun fuel, hrun fuel']
  · rw [hrun fuel, hrun fuel', h e s' hretried]

end Polling
end TelemetryCheck
