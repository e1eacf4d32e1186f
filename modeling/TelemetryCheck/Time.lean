namespace TelemetryCheck

/-- Points in time and spans of it. The harness reckons in doubles; its rules need no more than
these operations, so that they can also be stated for exact arithmetic. -/
class Time (τ : Type) extends Zero τ, Add τ, Sub τ, LT τ, LE τ where
  decLt : ∀ a b : τ, Decidable (a < b)
  decLe : ∀ a b : τ, Decidable (a ≤ b)
  ofSeconds : Float → τ
  toSeconds : τ → Float

namespace Time

variable {τ : Type} [Time τ]

instance (a b : τ) : Decidable (a < b) := Time.decLt a b

instance (a b : τ) : Decidable (a ≤ b) := Time.decLe a b

/-- The first of two times unless the second is less. -/
def least (a b : τ) : τ := if b < a then b else a

/-- The first of two times unless the second is greater. -/
def greatest (a b : τ) : τ := if a < b then b else a

end Time

instance zeroFloat : Zero Float := ⟨0.0⟩

instance timeFloat : Time Float where
  decLt := fun a b => inferInstanceAs (Decidable (a < b))
  decLe := fun a b => inferInstanceAs (Decidable (a ≤ b))
  ofSeconds := id
  toSeconds := id

end TelemetryCheck
