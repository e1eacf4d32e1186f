import Mathlib.Data.EReal.Inv
import TelemetryCheck.Proofs.Time.Comparison

/-!
# Exact time with endless spans

A file may ask for an interval without end, which is a double but no real number.  Where time is
reckoned without rounding, spans are therefore real numbers or endless, and a double stands for
exactly the value that it has.
-/

namespace TelemetryCheck

namespace Double

open Float.Model (UnpackedFloat)

/-- The value of a double; one that is not a number counts as zero. -/
noncomputable def valueOf : UnpackedFloat → EReal
  | .notANumber => 0
  | .infinity .positive => ⊤
  | .infinity .negative => ⊥
  | .zero _ => 0
  | .finite .positive mantissa exponent _ => ((mantissa * 2 ^ exponent : ℝ) : EReal)
  | .finite .negative mantissa exponent _ => ((-(mantissa * 2 ^ exponent) : ℝ) : EReal)

noncomputable def value (x : Float) : EReal := valueOf x.toModel.unpack

def hasParts (x : Float) (m : Nat) (e : Int) : Bool :=
  match x.toModel.unpack with
  | .finite .positive mantissa exponent _ => mantissa == m && exponent == e
  | _ => false

theorem value_eq {x : Float} {m : Nat} {e : Int} (h : hasParts x m e = true) :
    value x = ((m * 2 ^ e : ℝ) : EReal) := by
  unfold hasParts at h
  unfold value
  split at h
  · rename_i mantissa exponent _ hunpack
    rw [Bool.and_eq_true, beq_iff_eq, beq_iff_eq] at h
    obtain ⟨rfl, rfl⟩ := h
    rw [hunpack]
    rfl
  · cases h

/-- A double above zero is a number. -/
theorem isNaN_of_pos {x : Float} (h : 0.0 < x) : x.isNaN = false := by
  have horder := lt_iff.mp h
  show x.toModel.unpack.isNaN = false
  unfold order at horder
  cases hx : x.toModel.unpack with
  | notANumber =>
    rw [hx] at horder
    cases horder
  | _ => rfl

theorem value_pos {x : Float} (h : 0.0 < x) : 0 < value x := by
  have hzero : (0.0 : Float).toModel.unpack = .zero .positive := rfl
  have horder := lt_iff.mp h
  unfold order at horder
  rw [hzero] at horder
  unfold value
  cases hx : x.toModel.unpack with
  | notANumber =>
    rw [hx] at horder
    cases horder
  | infinity s =>
    cases s with
    | positive => exact EReal.zero_lt_top
    | negative =>
      rw [hx] at horder
      cases horder
  | zero s =>
    rw [hx] at horder
    cases horder
  | finite s mantissa exponent hpos =>
    cases s with
    | positive =>
      have hmantissa : (0 : ℝ) < mantissa := Nat.cast_pos.mpr hpos
      exact EReal.coe_pos.mpr (mul_pos hmantissa (zpow_pos two_pos exponent))
    | negative =>
      rw [hx] at horder
      cases horder

end Double

/-- Times that are added, subtracted and compared without rounding, and among them spans without
end. -/
class ExtendedTime (τ : Type) [Time τ] where
  value : τ → EReal
  value_zero : value 0 = 0
  value_sub {a b : τ} {x y : ℝ} : value a = x → value b = y → value (a - b) = (x - y : ℝ)
  value_ofSeconds (x : Float) : x.isNaN = false → value (Time.ofSeconds x) = Double.value x
  lt_iff {a b : τ} : a < b ↔ value a < value b
  le_iff {a b : τ} : a ≤ b ↔ value a ≤ value b

namespace ExtendedTime

variable {τ : Type} [Time τ] [ExtendedTime τ]

theorem zero_lt_iff {a : τ} {x : ℝ} (h : value a = x) : 0 < a ↔ 0 < x := by
  rw [lt_iff, value_zero, h]
  exact EReal.coe_pos

theorem value_least (a b : τ) : value (Time.least a b) = min (value a) (value b) := by
  unfold Time.least
  by_cases h : b < a
  · rw [if_pos h, min_eq_right (lt_iff.mp h).le]
  · rw [if_neg h, min_eq_left (not_lt.mp fun hlt => h (lt_iff.mpr hlt))]

end ExtendedTime
end TelemetryCheck
