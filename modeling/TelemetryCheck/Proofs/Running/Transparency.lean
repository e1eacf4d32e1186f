import TelemetryCheck.Proofs.Running.Wrapping

/-!
# Observing changes nothing

A run in an observed world comes to the same end as the run without the notes, and leaves the same
behind.  So what is shown of the calls that were noted holds of the calls that any runner makes.
-/

namespace TelemetryCheck

variable {ω τ α : Type}

def unobserved (b : Running (Observed ω τ) τ) : Running ω τ := Running.through Observed.world b

def observing (b : Running ω τ) : Running (Observed ω τ) τ := Running.through (⟨·, []⟩) b

theorem unobserved_observing (b : Running ω τ) : unobserved (observing b) = b := rfl

theorem seen_observing (b : Running ω τ) : seen (observing b) = [] := rfl

/-- The observed work comes to the end of the plain one and leaves the same behind. -/
def Mirrors (a : Work ω τ α) (plain : Action (Running ω τ) α) : Prop :=
  Action.Refines unobserved a plain

def Wrapping.observing : Wrapping ω (Observed ω τ) τ where
  call := observe
  look now := Action.focus (fun b => b.withWorld b.world.world)
    (fun inner b => inner.withWorld { b.world with world := inner.world }) now

theorem Wrapping.observing_refines :
    (Wrapping.observing : Wrapping ω (Observed ω τ) τ).Refines Observed.world .plain :=
  ⟨fun _ _ _ => rfl, fun _ _ => rfl⟩

theorem Runner.observed_eq_wrapped (r : Runner ω τ) : r.observed = r.wrapped .observing := rfl

theorem Runner.observed_refines (r : Runner ω τ) : r.observed.Refines Observed.world r := by
  have hrefines := Wrapping.observing_refines.runner r
  rw [wrapped_plain, ← observed_eq_wrapped] at hrefines
  exact hrefines

theorem Mirrors.runCheck [Time τ] (r : Runner ω τ) (client : Http.Client (Bench ω))
    (check : Check) :
    Mirrors (r.observed.runCheck client.observed check) (r.runCheck client check) :=
  r.observed_refines.runCheck (Wrapping.observing_refines.client client) check

theorem Mirrors.run [Time τ] (r : Runner ω τ) : Mirrors r.observed.run r.run :=
  r.observed_refines.run

end TelemetryCheck
