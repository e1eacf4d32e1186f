import Mathlib.Data.List.Forall2
import TelemetryCheck.Conversion

/-!
# What conversions come to

A conversion that is made up of others comes to something exactly if all of them do.  If it does not,
it complains about everything that any of them complains about.
-/

namespace TelemetryCheck
namespace Conversion

namespace Converted

variable {α β : Type}

theorem map_eq_ok {f : α → β} {a : Converted α} {b : β} :
    a.map f = .ok b ↔ ∃ x, a = .ok x ∧ f x = b := by
  cases a with
  | ok x => simp [map]
  | failed cs => simp [map]

theorem ap_eq_ok {f : Converted (α → β)} {a : Converted α} {b : β} :
    f.ap a = .ok b ↔ ∃ g x, f = .ok g ∧ a = .ok x ∧ g x = b := by
  cases f with
  | ok g =>
    cases a with
    | ok x => simp [ap]
    | failed cs => simp [ap]
  | failed cs => simp [ap]

theorem andThen_eq_ok {a : Converted α} {next : α → Converted β} {b : β} :
    a.andThen next = .ok b ↔ ∃ x, a = .ok x ∧ next x = .ok b := by
  cases a with
  | ok x => simp [andThen]
  | failed cs => simp [andThen]

theorem under_eq_ok {key : String} {a : Converted α} {x : α} :
    a.under key = .ok x ↔ a = .ok x := by
  cases a with
  | ok y => simp [under]
  | failed cs => simp [under]

theorem withComplaints_eq_ok {more : List Complaint} {a : Converted α} {x : α} :
    a.withComplaints more = .ok x ↔ a = .ok x ∧ more = [] := by
  cases a with
  | ok y =>
    cases more with
    | nil => simp [withComplaints]
    | cons c rest => simp [withComplaints]
  | failed cs => simp [withComplaints]

/-- All items of a list are converted, in order and wherever complaints about them would be put. -/
theorem forall₂_of_allOf {convert : β → Converted α} {name : Nat → String} {items : List β}
    {xs : List α}
    (h : allOf (items.mapIdx fun i item => (convert item).under (name i)) = .ok xs) :
    List.Forall₂ (fun item x => convert item = .ok x) items xs := by
  induction items generalizing name xs with
  | nil =>
    cases h
    exact .nil
  | cons item rest ih =>
    rw [List.mapIdx_cons, allOf] at h
    obtain ⟨build, more, hbuild, hrest, rfl⟩ := ap_eq_ok.mp h
    obtain ⟨x, hx, rfl⟩ := map_eq_ok.mp hbuild
    exact .cons (under_eq_ok.mp hx) (ih hrest)

/-! ## Complaints -/

@[simp] theorem complaints_map (f : α → β) (a : Converted α) :
    (f <$> a).complaints = a.complaints := by
  cases a <;> rfl

@[simp] theorem complaints_seq (f : Converted (α → β)) (a : Converted α) :
    (f <*> a).complaints = f.complaints ++ a.complaints := by
  cases f <;> cases a <;> simp [Seq.seq, ap, complaints]

theorem complaints_under (key : String) (a : Converted α) :
    (a.under key).complaints = a.complaints.map fun c => ⟨key :: c.location, c.message⟩ := by
  cases a <;> rfl

theorem complaints_withComplaints (more : List Complaint) (a : Converted α) :
    (a.withComplaints more).complaints = a.complaints ++ more := by
  cases a <;> cases more <;> rfl

theorem complaints_allOf (as : List (Converted α)) :
    (allOf as).complaints = as.flatMap complaints := by
  induction as with
  | nil => rfl
  | cons a rest ih =>
    show ((fun a as => a :: as) <$> a <*> allOf rest).complaints = _
    rw [complaints_seq, complaints_map, ih, List.flatMap_cons]

theorem eq_failed_of_mem {a : Converted α} {c : Complaint} (h : c ∈ a.complaints) :
    a = .failed a.complaints := by
  cases a with
  | ok x => exact absurd h List.not_mem_nil
  | failed cs => rfl

end Converted

end Conversion
end TelemetryCheck
