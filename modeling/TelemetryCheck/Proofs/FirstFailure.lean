import TelemetryCheck.Failure

/-!
# First failures

Work that goes through items one after the other ends with the failure of the first item that
fails.  Seen through the failure alone, going through a list is a search in it, and what the items
before came to does not matter.
-/

namespace TelemetryCheck

variable {ε α β : Type}

def failure? : Except ε α → Option ε
  | .ok _ => none
  | .error e => some e

@[simp] theorem failure?_ok (a : α) : failure? (.ok a : Except ε α) = none := rfl

@[simp] theorem failure?_error (e : ε) : failure? (.error e : Except ε α) = some e := rfl

theorem failure?_eq_some {x : Except ε α} {e : ε} : failure? x = some e ↔ x = .error e := by
  cases x <;> simp

theorem failure?_map (f : α → β) (x : Except ε α) : failure? (x.map f) = failure? x := by
  cases x <;> rfl

/-- Two steps fail with the failure of the first one, or of the second one after the first went
well. -/
theorem bind_eq_error {x : Except ε α} {next : α → Except ε β} {e : ε}
    (h : x >>= next = .error e) : x = .error e ∨ ∃ a, x = .ok a ∧ next a = .error e := by
  cases x with
  | error e' =>
    cases h
    exact .inl rfl
  | ok a => exact .inr ⟨a, rfl, h⟩

theorem bind_eq_ok {x : Except ε α} {next : α → Except ε β} {b : β} :
    x >>= next = .ok b ↔ ∃ a, x = .ok a ∧ next a = .ok b := by
  cases x with
  | error e => simp [bind, Except.bind]
  | ok a => simp [bind, Except.bind]

theorem unit_bind_eq_ok {x : Except ε Unit} {next : Unit → Except ε β} {b : β} :
    x >>= next = .ok b ↔ x = .ok () ∧ next () = .ok b := by
  rw [bind_eq_ok]
  exact ⟨fun ⟨_, hx, hnext⟩ => ⟨hx, hnext⟩, fun ⟨hx, hnext⟩ => ⟨(), hx, hnext⟩⟩

/-- Going through a list ends well exactly if every item passes. -/
theorem forM_eq_ok_iff {items : List α} {check : α → Except ε Unit} :
    items.forM check = .ok () ↔ ∀ x ∈ items, check x = .ok () := by
  induction items with
  | nil => exact iff_of_true rfl (List.forall_mem_nil _)
  | cons x rest ih =>
    show (check x >>= fun _ => rest.forM check) = .ok () ↔ _
    rw [unit_bind_eq_ok, List.forall_mem_cons, ih]

theorem map_eq_error {f : α → β} {x : Except ε α} {e : ε} (h : x.map f = .error e) :
    x = .error e := by
  rw [← failure?_eq_some, failure?_map] at h
  exact failure?_eq_some.mp h

/-- Where it does not matter for the failure of what comes next how the first part went, the first
failure of the two counts. -/
theorem failure?_bind {x : Except ε α} {next : α → Except ε β} {later : Option ε}
    (h : ∀ a, failure? (next a) = later) : failure? (x >>= next) = (failure? x).or later := by
  cases x with
  | error e => rfl
  | ok a =>
    show failure? (next a) = _
    rw [h, failure?_ok, Option.none_or]

/-- What is only put into another form fails as it did before. -/
theorem failure?_bind_pure (f : α → β) (x : Except ε α) :
    failure? (x >>= fun a => pure (f a)) = failure? x := by
  cases x <;> rfl

def endsWithFault : Except Failure α → Bool
  | .error (.fault _) => true
  | _ => false

/-- Going through a list ends with the failure of the first item that fails. -/
theorem failure?_mapM (f : α → Except ε β) (xs : List α) :
    failure? (xs.mapM f) = xs.findSome? fun x => failure? (f x) := by
  induction xs with
  | nil => rfl
  | cons x rest ih =>
    have hrest : ∀ b, failure? (rest.mapM f >>= fun bs => pure (b :: bs)) =
        rest.findSome? fun x => failure? (f x) := by
      intro b
      rw [failure?_bind_pure, ih]
    rw [List.mapM_cons, failure?_bind hrest, List.findSome?_cons]
    cases failure? (f x) <;> rfl

theorem exists_of_mapM_error {f : α → Except ε β} {xs : List α} {e : ε}
    (h : xs.mapM f = .error e) : ∃ x ∈ xs, f x = .error e := by
  rw [← failure?_eq_some, failure?_mapM] at h
  obtain ⟨x, hx, hfx⟩ := List.exists_of_findSome?_eq_some h
  exact ⟨x, hx, failure?_eq_some.mp hfx⟩

/-- Going through a list where every item comes to something comes to all of it, in order. -/
theorem mapM_eq_ok {f : α → Except ε β} {g : α → β} {xs : List α} (h : ∀ x ∈ xs, f x = .ok (g x)) :
    xs.mapM f = .ok (xs.map g) := by
  induction xs with
  | nil => rfl
  | cons x rest ih =>
    rw [List.mapM_cons, h x List.mem_cons_self, ih fun y hy => h y (List.mem_cons_of_mem x hy)]
    rfl

theorem exists_mapM_eq_ok {f : α → Except ε β} {xs : List α} (h : ∀ x ∈ xs, ∃ y, f x = .ok y) :
    ∃ ys, xs.mapM f = .ok ys := by
  cases hmap : xs.mapM f with
  | ok ys => exact ⟨ys, rfl⟩
  | error e =>
    obtain ⟨x, hx, herror⟩ := exists_of_mapM_error hmap
    obtain ⟨y, hok⟩ := h x hx
    rw [herror] at hok
    cases hok

/-- A search through lists one after the other is a search through all of them. -/
theorem findSome?_flatMap {γ : Type} (f : α → List β) (p : β → Option γ) (xs : List α) :
    (xs.flatMap f).findSome? p = xs.findSome? fun x => (f x).findSome? p := by
  induction xs with
  | nil => rfl
  | cons x rest ih =>
    rw [List.flatMap_cons, List.findSome?_append, ih, List.findSome?_cons]
    cases (f x).findSome? p <;> rfl

end TelemetryCheck
