import TelemetryCheck.Proofs.Running.Along
import TelemetryCheck.Proofs.Running.Transparency

/-!
# The chronicle of a run

Every call of a run is noted with the times at which it began and ended.  Time passes in calls
only, so that each call begins when the one before it has ended.
-/

namespace TelemetryCheck

variable {ω τ α : Type}

structure Stamped (τ : Type) where
  call : Interaction τ
  began : τ
  ended : τ

structure Timed (ω τ : Type) where
  world : ω
  stamps : List (Stamped τ) := []

/-- Each call is noted with the time that the world shows before it and after it. -/
def Wrapping.timing (time : ω → τ) : Wrapping ω (Timed ω τ) τ where
  call note a := ExceptT.mk fun b =>
    let (outcome, after) := a.runFrom (b.withWorld b.world.world)
    (outcome, after.withWorld ⟨after.world, b.world.stamps ++
      [⟨note outcome, time b.world.world, time after.world⟩]⟩)
  look now := Action.focus (fun b => b.withWorld b.world.world)
    (fun inner b => inner.withWorld { b.world with world := inner.world }) now

def untimed (w : Timed ω τ) : Observed ω τ := ⟨w.world, w.stamps.map Stamped.call⟩

theorem Wrapping.timing_refines_observing (time : ω → τ) :
    (Wrapping.timing time).Refines untimed .observing := by
  refine ⟨fun note a b => ?_, fun now b => rfl⟩
  have hmap : ∀ s : Stamped τ, b.world.stamps.map Stamped.call ++ [s.call] =
      (b.world.stamps ++ [s]).map Stamped.call := fun s => by
    rw [List.map_append]
    rfl
  let after := (a.runFrom (b.withWorld b.world.world)).2
  let outcome := (a.runFrom (b.withWorld b.world.world)).1
  exact congrArg (fun seen => (outcome, after.withWorld (⟨after.world, seen⟩ : Observed ω τ)))
    (hmap ⟨note outcome, time b.world.world, time after.world⟩)

theorem Wrapping.timing_refines_plain (time : ω → τ) :
    (Wrapping.timing time).Refines Timed.world .plain :=
  ⟨fun _ _ _ => rfl, fun _ _ => rfl⟩

def Runner.timed (r : Runner ω τ) (time : ω → τ) : Runner (Timed ω τ) τ := r.wrapped (.timing time)

def Http.Client.timed (client : Http.Client (Bench ω)) (time : ω → τ) :
    Http.Client (Bench (Timed ω τ)) := client.wrapped (.timing time)

def timing (b : Running ω τ) : Running (Timed ω τ) τ := Running.through (⟨·, []⟩) b

def Runner.chronicle [Time τ] (r : Runner ω τ) (time : ω → τ) (c : TestCase τ) (b : Bench ω) :
    List (Stamped τ) :=
  ((r.timed time).run.runFrom (timing (r.start c b))).2.world.outside.stamps

/-- Keeping a chronicle changes nothing. -/
theorem Runner.timed_refines (r : Runner ω τ) (time : ω → τ) :
    (r.timed time).Refines Timed.world r := by
  have hrefines := (Wrapping.timing_refines_plain time).runner r
  rw [wrapped_plain] at hrefines
  exact hrefines

/-! ## Calls without a gap -/

/-- Calls of which each begins when the one before it has ended. -/
inductive Contiguous : τ → List (Stamped τ) → τ → Prop
  | nil {t : τ} : Contiguous t [] t
  | cons {s : Stamped τ} {rest : List (Stamped τ)} {t t' : τ} :
      s.began = t → Contiguous s.ended rest t' → Contiguous t (s :: rest) t'

namespace Contiguous

variable {stamps more : List (Stamped τ)} {t t' t'' : τ}

theorem single (s : Stamped τ) : Contiguous s.began [s] s.ended := .cons rfl .nil

theorem append (h : Contiguous t stamps t') (h' : Contiguous t' more t'') :
    Contiguous t (stamps ++ more) t'' := by
  induction h with
  | nil => exact h'
  | cons hs _ ih => exact .cons hs (ih h')

theorem head_eq (h : Contiguous t stamps t') (hne : stamps ≠ []) :
    stamps.head?.map Stamped.began = some t := by
  cases h with
  | nil => exact absurd rfl hne
  | cons hs _ => exact congrArg some hs

theorem last_eq (h : Contiguous t stamps t') (hne : stamps ≠ []) :
    stamps.getLast?.map Stamped.ended = some t' := by
  induction h with
  | nil => exact absurd rfl hne
  | @cons s rest _ _ _ hrest ih =>
    by_cases hnil : rest = []
    · subst hnil
      cases hrest
      rfl
    · rw [List.getLast?_cons_of_ne_nil hnil]
      exact ih hnil

end Contiguous
end TelemetryCheck
