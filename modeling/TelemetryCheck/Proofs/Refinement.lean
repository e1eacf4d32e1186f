import TelemetryCheck.Polling

/-!
# Refinement

An action on a richer state can be looked at through a view that leaves out what the state has
more.  It refines a plain action if, seen through the view, it comes to the same end and leaves the
same behind.  So what is shown of the richer one holds of the plain one.
-/

namespace TelemetryCheck

variable {σ ρ τ α β : Type}

namespace Action

def Refines (view : σ → ρ) (a : Action σ α) (plain : Action ρ α) : Prop :=
  ∀ s, plain.runFrom (view s) = ((a.runFrom s).1, view (a.runFrom s).2)

namespace Refines

variable {view : σ → ρ} {a : Action σ α} {plain : Action ρ α} {k : α → Action σ β}
  {plainK : α → Action ρ β}

theorem ofExcept (x : Except Failure α) :
    Refines view (Action.ofExcept x : Action σ α) (Action.ofExcept x) := by
  intro s
  cases x <;> rfl

theorem pure (x : α) : Refines view (Pure.pure x : Action σ α) (Pure.pure x) := fun _ => rfl

theorem throw (f : Failure) :
    Refines view (MonadExcept.throw f : Action σ α) (MonadExcept.throw f) := fun _ => rfl

theorem bind (ha : Refines view a plain) (hk : ∀ x, Refines view (k x) (plainK x)) :
    Refines view (a >>= k) (plain >>= plainK) := by
  intro s
  rw [runFrom_bind, runFrom_bind, ha s]
  cases a.runFrom s with
  | mk ending after =>
    cases ending with
    | error f => rfl
    | ok x => exact hk x after

theorem tryCatch {handle : Failure → Action σ α} {plainHandle : Failure → Action ρ α}
    (ha : Refines view a plain) (hhandle : ∀ f, Refines view (handle f) (plainHandle f)) :
    Refines view (MonadExcept.tryCatch a handle) (MonadExcept.tryCatch plain plainHandle) := by
  intro s
  have hrun := runFrom_tryCatch a handle s
  have hplain := runFrom_tryCatch plain plainHandle (view s)
  rw [ha s] at hplain
  cases h : a.runFrom s with
  | mk ending after =>
    rw [h] at hrun hplain
    rw [hrun, hplain]
    cases ending with
    | error f => exact hhandle f after
    | ok x => rfl

theorem tryFinally {b : Action σ Unit} {plainB : Action ρ Unit} (ha : Refines view a plain)
    (hb : Refines view b plainB) :
    Refines view (tryFinally a b) (tryFinally plain plainB) := by
  intro s
  rw [runFrom_tryFinally, runFrom_tryFinally, ha s]
  simp only
  rw [hb (a.runFrom s).2]
  cases b.runFrom (a.runFrom s).2 with
  | mk ending after => cases ending <;> rfl

theorem attempt {a : Action σ Unit} {plain : Action ρ Unit} (ha : Refines view a plain) :
    Refines view a.attempt plain.attempt := by
  intro s
  rw [runFrom_attempt, runFrom_attempt, ha s]
  cases a.runFrom s with
  | mk ending after =>
    cases ending with
    | error f => cases f <;> rfl
    | ok x => rfl

theorem ite {condition : Prop} [Decidable condition] {a' : Action σ α} {plain' : Action ρ α}
    (ha : Refines view a plain) (ha' : Refines view a' plain') :
    Refines view (if condition then a else a') (if condition then plain else plain') := by
  by_cases h : condition
  · rw [if_pos h, if_pos h]
    exact ha
  · rw [if_neg h, if_neg h]
    exact ha'

theorem get_bind {k : σ → Action σ β} {plainK : ρ → Action ρ β}
    (hk : ∀ s, Refines view (k s) (plainK (view s))) :
    Refines view (get >>= k) (get >>= plainK) := fun s => hk s s

theorem modify {change : σ → σ} {plainChange : ρ → ρ}
    (h : ∀ s, plainChange (view s) = view (change s)) :
    Refines view (modify change : Action σ Unit) (modify plainChange) := by
  intro s
  show (Except.ok (), plainChange (view s)) = (Except.ok (), view (change s))
  rw [h s]

theorem always {a : StateM σ α} {plain : StateM ρ α}
    (h : ∀ s, plain.run (view s) = ((a.run s).1, view (a.run s).2)) :
    Refines view (Action.always a) (Action.always plain) := by
  intro s
  rw [runFrom_always, runFrom_always, h s]

end Refines

/-- As `Refines`, for results of two types of which each one stands for the other. -/
def RefinesTo (view : σ → ρ) (standsFor : α → β → Prop) (a : Action σ α) (plain : Action ρ β) :
    Prop :=
  ∀ s, (plain.runFrom (view s)).2 = view (a.runFrom s).2 ∧
    match (a.runFrom s).1, (plain.runFrom (view s)).1 with
    | .ok x, .ok y => standsFor x y
    | .error f, .error g => g = f
    | _, _ => False

theorem RefinesTo.bind {γ : Type} {view : σ → ρ} {standsFor : α → β → Prop} {a : Action σ α}
    {plain : Action ρ β} {k : α → Action σ γ} {plainK : β → Action ρ γ}
    (ha : RefinesTo view standsFor a plain)
    (hk : ∀ x y, standsFor x y → Refines view (k x) (plainK y)) :
    Refines view (a >>= k) (plain >>= plainK) := by
  intro s
  obtain ⟨hafter, hending⟩ := ha s
  rw [runFrom_bind, runFrom_bind]
  cases h : a.runFrom s with
  | mk ending after =>
    cases h' : plain.runFrom (view s) with
    | mk ending' after' =>
      rw [h, h'] at hafter hending
      dsimp only at hafter
      subst hafter
      cases ending with
      | error f =>
        cases ending' with
        | error g =>
          cases hending
          rfl
        | ok y => exact hending.elim
      | ok x =>
        cases ending' with
        | error g => exact hending.elim
        | ok y => exact hk x y hending after

end Action

/-! ## Polling -/

open TelemetryCheck.Action

structure Clock.Refines (view : σ → ρ) (clock : Clock σ τ) (plain : Clock ρ τ) : Prop where
  now : ∀ s, plain.now.run (view s) = ((clock.now.run s).1, view (clock.now.run s).2)
  sleep : ∀ t, Action.Refines view (clock.sleep t) (plain.sleep t)

/-- A plan that differs from a plain one only in what the view leaves out. -/
structure Polling.Plan.Refines (view : σ → ρ) (plan : Plan σ τ) (plain : Plan ρ τ) : Prop where
  attempt : Action.Refines view plan.attempt plain.attempt
  onRetry : ∀ n t e, Action.Refines view (plan.onRetry n t e) (plain.onRetry n t e)
  deadline : plan.deadline = plain.deadline
  interval : plan.interval = plain.interval
  description : plan.description = plain.description

namespace Polling

variable [Time τ] {view : σ → ρ} {clock : Clock σ τ} {plainClock : Clock ρ τ} {plan : Plan σ τ}
  {plain : Plan ρ τ}

theorem refines_pause (hclock : clock.Refines view plainClock) (hplan : plan.Refines view plain)
    (elapsed : τ) : Refines view (pause clock plan elapsed) (pause plainClock plain elapsed) := by
  unfold pause
  rw [hplan.interval, hplan.deadline]
  exact Refines.ite (hclock.sleep _) (.pure ())

theorem refines_rounds (hclock : clock.Refines view plainClock) (hplan : plan.Refines view plain)
    (start : τ) (fuel iterations : Nat) (last : Option Retryable) :
    Refines view (rounds clock plan start fuel iterations last)
      (rounds plainClock plain start fuel iterations last) := by
  induction fuel generalizing iterations last with
  | zero => exact .throw _
  | succ fuel ih =>
    unfold rounds
    rw [hplan.deadline, hplan.description]
    refine .bind (.always hclock.now) fun head => .ite (.pure _) ?_
    refine .bind (.attempt hplan.attempt) fun failed => ?_
    cases failed with
    | none => exact .bind (.always hclock.now) fun now => .pure _
    | some error =>
      refine .bind (.always hclock.now) fun now => .bind (hplan.onRetry _ _ _) fun _ => ?_
      exact .bind (refines_pause hclock hplan _) fun _ => ih _ _

theorem refines_poll (hclock : clock.Refines view plainClock) (hplan : plan.Refines view plain)
    (fuel : Nat) : Refines view (poll clock plan fuel) (poll plainClock plain fuel) :=
  .bind (.always hclock.now) fun start => refines_rounds hclock hplan start fuel 0 none

end Polling
end TelemetryCheck
