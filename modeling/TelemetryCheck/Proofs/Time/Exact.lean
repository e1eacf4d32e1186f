import Mathlib.Data.Real.Basic
import TelemetryCheck.Time

/-!
# Exact time

Where time is reckoned without rounding, points in time and spans of it are real numbers, and what
is shown of the rules of the harness needs no more than the arithmetic of these.
-/

namespace TelemetryCheck

/-- Times that are added, subtracted and compared as real numbers are. -/
class ExactTime (τ : Type) [Time τ] where
  real : τ → ℝ
  real_zero : real 0 = 0
  real_add : ∀ a b : τ, real (a + b) = real a + real b
  real_sub : ∀ a b : τ, real (a - b) = real a - real b
  lt_iff : ∀ {a b : τ}, a < b ↔ real a < real b
  le_iff : ∀ {a b : τ}, a ≤ b ↔ real a ≤ real b

namespace ExactTime

variable {τ : Type} [Time τ] [ExactTime τ]

theorem real_least (a b : τ) : real (Time.least a b) = min (real a) (real b) := by
  unfold Time.least
  by_cases h : b < a
  · rw [if_pos h, min_eq_right (lt_iff.mp h).le]
  · rw [if_neg h, min_eq_left (not_lt.mp fun hlt => h (lt_iff.mpr hlt))]

theorem real_greatest (a b : τ) : real (Time.greatest a b) = max (real a) (real b) := by
  unfold Time.greatest
  by_cases h : a < b
  · rw [if_pos h, max_eq_right (lt_iff.mp h).le]
  · rw [if_neg h, max_eq_left (not_lt.mp fun hlt => h (lt_iff.mpr hlt))]

theorem le_trans {a b c : τ} (h : a ≤ b) (h' : b ≤ c) : a ≤ c :=
  le_iff.mpr ((le_iff.mp h).trans (le_iff.mp h'))

theorem le_refl (a : τ) : a ≤ a := le_iff.mpr le_rfl

end ExactTime

/-! ## Ticks -/

/-- Time in whole ticks; every span of time that is given in seconds is one tick. -/
instance tickTime : Time Int where
  zero := 0
  decLt := inferInstance
  decLe := inferInstance
  ofSeconds _ := 1
  toSeconds _ := 0.0

noncomputable instance exactTicks : ExactTime Int where
  real n := (n : ℝ)
  real_zero := Int.cast_zero
  real_add := Int.cast_add
  real_sub := Int.cast_sub
  lt_iff := Int.cast_lt.symm
  le_iff := Int.cast_le.symm

end TelemetryCheck
