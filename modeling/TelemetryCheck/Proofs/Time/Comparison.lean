import TelemetryCheck.Time

/-!
# Comparing times

Doubles have one value besides the numbers, which is neither before nor after any other.  What is
said of a least time needs no more than that numbers can be compared, so it holds of doubles as it
does of exact times.
-/

namespace TelemetryCheck

/-- Times of which those that are numbers can be compared with each other. -/
class ComparableTime (τ : Type) [Time τ] where
  IsNumber : τ → Prop
  lt_asymm {a b : τ} : a < b → ¬b < a
  le_of_not_lt {a b : τ} : IsNumber a → IsNumber b → ¬b < a → a ≤ b

namespace ComparableTime

variable {τ : Type} [Time τ] [ComparableTime τ] {a b : τ}

theorem lt_of_not_le (ha : IsNumber a) (hb : IsNumber b) (h : ¬a ≤ b) : b < a := by
  by_cases hlt : b < a
  · exact hlt
  · exact absurd (le_of_not_lt ha hb hlt) h

theorem le_of_lt (ha : IsNumber a) (hb : IsNumber b) (h : a < b) : a ≤ b :=
  le_of_not_lt ha hb (lt_asymm h)

theorem le_refl (ha : IsNumber a) : a ≤ a :=
  le_of_not_lt ha ha fun h => lt_asymm h h

theorem least_le_left (ha : IsNumber a) (hb : IsNumber b) : Time.least a b ≤ a := by
  unfold Time.least
  by_cases h : b < a
  · rw [if_pos h]
    exact le_of_lt hb ha h
  · rw [if_neg h]
    exact le_refl ha

theorem least_le_right (ha : IsNumber a) (hb : IsNumber b) : Time.least a b ≤ b := by
  unfold Time.least
  by_cases h : b < a
  · rw [if_pos h]
    exact le_refl hb
  · rw [if_neg h]
    exact le_of_not_lt ha hb h

end ComparableTime

/-! ## Doubles -/

namespace Double

open Float.Model (UnpackedFloat)

/-- The other way round, a comparison comes out the other way round. -/
theorem compare_swap (a b : UnpackedFloat) :
    b.compare a = (a.compare b).map Ordering.swap := by
  cases a with
  | notANumber => cases b <;> rfl
  | infinity s =>
    cases b with
    | notANumber => cases s <;> rfl
    | infinity t => cases s <;> cases t <;> rfl
    | zero t => cases s <;> rfl
    | finite t => cases s <;> cases t <;> rfl
  | zero s =>
    cases b with
    | notANumber => rfl
    | infinity t => cases t <;> rfl
    | zero t => rfl
    | finite t => cases t <;> rfl
  | finite s m e =>
    cases b with
    | notANumber => cases s <;> rfl
    | infinity t => cases s <;> cases t <;> rfl
    | zero t => cases s <;> rfl
    | finite t m' e' =>
      have hswap : (compare e' e).then (compare m' m) =
          ((compare e e').then (compare m m')).swap := by
        rw [Ordering.swap_then, Int.compare_swap, Nat.compare_swap]
      cases s with
      | positive =>
        cases t with
        | positive => exact congrArg some hswap
        | negative => rfl
      | negative =>
        cases t with
        | positive => rfl
        | negative => exact congrArg (fun o => some o.swap) hswap

theorem compare_isSome {a b : UnpackedFloat} (ha : a.isNaN = false) (hb : b.isNaN = false) :
    ∃ o, a.compare b = some o := by
  cases a with
  | notANumber => cases ha
  | infinity s =>
    cases b with
    | notANumber => cases hb
    | infinity t => exact ⟨_, rfl⟩
    | zero t => cases s <;> exact ⟨_, rfl⟩
    | finite t => cases s <;> exact ⟨_, rfl⟩
  | zero s =>
    cases b with
    | notANumber => cases hb
    | infinity t => cases t <;> exact ⟨_, rfl⟩
    | zero t => exact ⟨_, rfl⟩
    | finite t => cases t <;> exact ⟨_, rfl⟩
  | finite s =>
    cases b with
    | notANumber => cases hb
    | infinity t => cases s <;> cases t <;> exact ⟨_, rfl⟩
    | zero t => cases s <;> exact ⟨_, rfl⟩
    | finite t => cases s <;> cases t <;> exact ⟨_, rfl⟩

def order (a b : Float) : Option Ordering := a.toModel.unpack.compare b.toModel.unpack

theorem lt_iff {a b : Float} : a < b ↔ order a b = some .lt := by
  show decide (a.toModel < b.toModel) = true ↔ _
  rw [decide_eq_true_iff]
  show (order a b == some .lt) = true ↔ _
  rw [beq_iff_eq]

theorem le_iff {a b : Float} : a ≤ b ↔ ∃ o, order a b = some o ∧ o.isLE = true := by
  show decide (a.toModel ≤ b.toModel) = true ↔ _
  rw [decide_eq_true_iff]
  show (order a b).any (·.isLE) = true ↔ _
  rw [Option.any_eq_true]

instance comparable : ComparableTime Float where
  IsNumber x := x.isNaN = false
  lt_asymm := by
    intro a b hab hba
    have hswap : order b a = (order a b).map Ordering.swap := compare_swap _ _
    rw [lt_iff.mp hab, lt_iff.mp hba] at hswap
    cases hswap
  le_of_not_lt := by
    intro a b ha hb h
    have hswap : order b a = (order a b).map Ordering.swap := compare_swap _ _
    obtain ⟨o, ho⟩ : ∃ o, order a b = some o := compare_isSome ha hb
    refine le_iff.mpr ⟨o, ho, ?_⟩
    cases o with
    | lt => rfl
    | eq => rfl
    | gt =>
      rw [ho] at hswap
      exact absurd (lt_iff.mpr hswap) h

end Double
end TelemetryCheck
