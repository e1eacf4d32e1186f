import TelemetryCheck.Failure

/-!
# Actions

What is done step by step. An action changes a state and may fail; what it changed before it
failed stays changed.
-/

namespace TelemetryCheck

abbrev Action (σ α : Type) : Type := ExceptT Failure (StateM σ) α

namespace Action

variable {σ ρ α : Type}

/-- What an action comes to from a state, and the state it leaves. -/
def runFrom (a : Action σ α) (s : σ) : Except Failure α × σ := (ExceptT.run a).run s

/-- An action that comes to a known end and changes nothing. -/
def ofExcept : Except Failure α → Action σ α
  | .ok a => pure a
  | .error f => throw f

def ofFault : Except Fault α → Action σ α
  | .ok a => pure a
  | .error f => throw (.fault f)

/-- Something that cannot fail. -/
def always (a : StateM σ α) : Action σ α := ExceptT.lift a

/-- Works on a part of a state; the rest stays as it is. -/
def focus (part : ρ → σ) (put : σ → ρ → ρ) (a : StateM σ α) : StateM ρ α := fun s =>
  let (result, p) := a.run (part s)
  pure (result, put p s)

def onPart (part : ρ → σ) (put : σ → ρ → ρ) (a : Action σ α) : Action ρ α :=
  ExceptT.mk (focus part put a.run)

/-- Takes a failure that may be tried again as a result; any other failure stays one. -/
def attempt (a : Action σ Unit) : Action σ (Option Retryable) :=
  tryCatch (do a; return none) fun failure =>
    match failure with
    | .retryable r => return some r
    | failure => throw failure

/-- Takes a definition that cannot be used as a result; any other failure stays one. -/
def refusal (a : Action σ α) : Action σ (Except Misconfiguration α) :=
  tryCatch (do return .ok (← a)) fun failure =>
    match failure with
    | .configuration m => return .error m
    | failure => throw failure

theorem runFrom_ofExcept (x : Except Failure α) (s : σ) : (ofExcept x).runFrom s = (x, s) := by
  cases x <;> rfl

theorem runFrom_bind {β : Type} (a : Action σ α) (k : α → Action σ β) (s : σ) :
    (a >>= k).runFrom s =
      match a.runFrom s with
      | (.ok x, s) => (k x).runFrom s
      | (.error f, s) => (.error f, s) := by
  simp only [runFrom, bind, ExceptT.bind, ExceptT.run, ExceptT.mk, StateT.run, StateT.bind]
  rcases a s with ⟨r | r, t⟩ <;> rfl

theorem runFrom_map {β : Type} (f : α → β) (a : Action σ α) (s : σ) :
    (f <$> a).runFrom s = ((a.runFrom s).1.map f, (a.runFrom s).2) := by
  rw [← bind_pure_comp, runFrom_bind]
  rcases a.runFrom s with ⟨g | x, t⟩ <;> rfl

theorem runFrom_onPart (part : ρ → σ) (put : σ → ρ → ρ) (a : Action σ α) (s : ρ) :
    (a.onPart part put).runFrom s =
      ((a.runFrom (part s)).1, put (a.runFrom (part s)).2 s) := rfl

/-- Two actions one after the other either end with the failure of the first or go on to the
second. -/
theorem bind_cases {β : Type} {a : Action σ α} {k : α → Action σ β} {s s' : σ}
    {ending : Except Failure β} (h : (a >>= k).runFrom s = (ending, s')) :
    (∃ f, a.runFrom s = (.error f, s') ∧ ending = .error f) ∨
      ∃ x s₁, a.runFrom s = (.ok x, s₁) ∧ (k x).runFrom s₁ = (ending, s') := by
  rw [runFrom_bind] at h
  cases hrun : a.runFrom s with
  | mk outcome s₁ =>
    rw [hrun] at h
    cases outcome with
    | error f =>
      cases h
      exact .inl ⟨f, rfl, rfl⟩
    | ok x => exact .inr ⟨x, s₁, rfl, h⟩

theorem runFrom_tryCatch (a : Action σ α) (handle : Failure → Action σ α) (s : σ) :
    (tryCatch a handle).runFrom s =
      match a.runFrom s with
      | (.ok x, s) => (.ok x, s)
      | (.error f, s) => (handle f).runFrom s := by
  simp only [runFrom, tryCatch, tryCatchThe, MonadExceptOf.tryCatch, ExceptT.tryCatch, bind,
    ExceptT.run, ExceptT.mk, StateT.run, StateT.bind]
  rcases a s with ⟨f | x, t⟩ <;> rfl

theorem runFrom_attempt (a : Action σ Unit) (s : σ) :
    (attempt a).runFrom s =
      match a.runFrom s with
      | (.ok _, s) => (.ok none, s)
      | (.error (.retryable r), s) => (.ok (some r), s)
      | (.error f, s) => (.error f, s) := by
  simp only [attempt, runFrom, tryCatch, tryCatchThe, MonadExceptOf.tryCatch, ExceptT.tryCatch,
    bind, ExceptT.bind, ExceptT.run, ExceptT.mk, StateT.run, StateT.bind]
  rcases a s with ⟨f | u, t⟩
  · cases f <;> rfl
  · rfl

theorem runFrom_refusal (a : Action σ α) (s : σ) :
    (refusal a).runFrom s =
      match a.runFrom s with
      | (.ok x, s) => (.ok (.ok x), s)
      | (.error (.configuration m), s) => (.ok (.error m), s)
      | (.error f, s) => (.error f, s) := by
  simp only [refusal, runFrom, tryCatch, tryCatchThe, MonadExceptOf.tryCatch, ExceptT.tryCatch,
    bind, ExceptT.bind, ExceptT.run, ExceptT.mk, StateT.run, StateT.bind]
  rcases a s with ⟨f | x, t⟩
  · cases f <;> rfl
  · rfl

theorem runFrom_always (a : StateM σ α) (s : σ) :
    (always a).runFrom s = (.ok (a.run s).1, (a.run s).2) := rfl

/-- What is done in any case is done after the body; its failure takes the place of the end that
the body came to. -/
theorem runFrom_tryFinally (a : Action σ α) (b : Action σ Unit) (s : σ) :
    (tryFinally a b).runFrom s =
      match a.runFrom s with
      | (ending, s) =>
        match b.runFrom s with
        | (.ok _, s) => (ending, s)
        | (.error f, s) => (.error f, s) := by
  simp only [runFrom, tryFinally, tryFinally', Functor.map, ExceptT.map, bind, ExceptT.run,
    ExceptT.mk, StateT.run, StateT.bind]
  rcases a s with ⟨f | x, t⟩
  · rcases h : b t with ⟨g | u, v⟩ <;> simp only [h] <;> rfl
  · rcases h : b t with ⟨g | u, v⟩ <;> simp only [h] <;> rfl

end Action
end TelemetryCheck
