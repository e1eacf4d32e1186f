import Mathlib.Data.List.Nodup
import TelemetryCheck.Json.Value

/-!
# Fields

Fields are looked up by their keys and put in place one after the other.  Of several that are put in
place under one key the last one counts, and no key is there twice.
-/

namespace TelemetryCheck
namespace Json

variable {α : Type} {key : String} {value : α} {fields : List (String × α)}

theorem isSome_field?_iff : (field? key fields).isSome ↔ key ∈ fields.map (·.1) := by
  induction fields with
  | nil => simp [field?]
  | cons e rest ih =>
    obtain ⟨k, value⟩ := e
    rw [field?, List.map_cons, List.mem_cons]
    by_cases hkey : k = key
    · simp [hkey]
    · rw [if_neg hkey, ih, or_iff_right (Ne.symm hkey)]

theorem field?_eq_none_iff : field? key fields = none ↔ key ∉ fields.map (·.1) := by
  rw [← isSome_field?_iff, Bool.not_eq_true, Option.isSome_eq_false_iff, Option.isNone_iff_eq_none]

def last? (key : String) (fields : List (String × α)) : Option α :=
  (fields.filter fun p => p.1 = key).getLast?.map Prod.snd

theorem last?_cons_self (value : α) (rest : List (String × α)) :
    last? key ((key, value) :: rest) = (last? key rest).or (some value) := by
  rw [last?, List.filter_cons_of_pos (by simp), List.getLast?_cons, last?]
  cases (rest.filter fun p => p.1 = key).getLast? <;> rfl

theorem last?_cons_ne {k : String} (h : k ≠ key) (value : α) (rest : List (String × α)) :
    last? key ((k, value) :: rest) = last? key rest := by
  rw [last?, List.filter_cons_of_neg (by simpa using h), last?]

theorem last?_eq_none_of_not_mem (h : key ∉ fields.map (·.1)) : last? key fields = none := by
  have hnone : (fields.filter fun p => p.1 = key) = [] := by
    refine List.filter_eq_nil_iff.mpr fun p hp hkey => h ?_
    exact List.mem_map.mpr ⟨p, hp, of_decide_eq_true hkey⟩
  rw [last?, hnone]
  rfl

/-- Where no key is there twice the last field with a key is the only one. -/
theorem last?_eq_field? (h : (fields.map (·.1)).Nodup) : last? key fields = field? key fields := by
  induction fields with
  | nil => rfl
  | cons e rest ih =>
    obtain ⟨k, v⟩ := e
    obtain ⟨hnew, hrest⟩ := List.nodup_cons.mp h
    rw [field?]
    by_cases hkey : k = key
    · subst hkey
      rw [last?_cons_self, last?_eq_none_of_not_mem hnew, if_pos rfl, Option.none_or]
    · rw [last?_cons_ne hkey, ih hrest, if_neg hkey]

/-! ## Fields put in place -/

/-- A key that is not there yet comes last. -/
theorem setField_of_not_mem (h : key ∉ fields.map (·.1)) :
    setField key value fields = fields ++ [(key, value)] := by
  induction fields with
  | nil => rfl
  | cons e rest ih =>
    obtain ⟨k, v⟩ := e
    rw [List.map_cons, List.mem_cons, not_or] at h
    rw [setField, if_neg (Ne.symm h.1), ih h.2, List.cons_append]

theorem mem_keys_setField {k : String} (h : k ∈ (setField key value fields).map (·.1)) :
    k = key ∨ k ∈ fields.map (·.1) := by
  induction fields with
  | nil => exact .inl (List.mem_singleton.mp h)
  | cons e rest ih =>
    obtain ⟨k', v⟩ := e
    rw [setField] at h
    split at h
    · exact .inr h
    · rcases List.mem_cons.mp h with rfl | hrest
      · exact .inr List.mem_cons_self
      · exact (ih hrest).imp_right (List.mem_cons_of_mem k')

theorem nodup_setField (h : (fields.map (·.1)).Nodup) :
    ((setField key value fields).map (·.1)).Nodup := by
  induction fields with
  | nil => exact List.nodup_singleton key
  | cons e rest ih =>
    obtain ⟨k, v⟩ := e
    obtain ⟨hnew, hrest⟩ := List.nodup_cons.mp h
    rw [setField]
    split
    · exact h
    · rename_i hkey
      refine List.nodup_cons.mpr ⟨fun hmem => ?_, ih hrest⟩
      rcases mem_keys_setField hmem with hsame | hold
      · exact hkey hsame
      · exact hnew hold

variable {base upper : List (String × α)}

theorem field?_foldl_setField :
    field? key (upper.foldl (fun done p => setField p.1 p.2 done) base) =
      (last? key upper).or (field? key base) := by
  induction upper generalizing base with
  | nil => rfl
  | cons e rest ih =>
    obtain ⟨k, v⟩ := e
    rw [List.foldl_cons, ih]
    by_cases hkey : k = key
    · subst hkey
      rw [field?_setField, last?_cons_self, Option.or_assoc, Option.some_or]
    · rw [field?_setField_ne v base (Ne.symm hkey), last?_cons_ne hkey]

theorem nodup_foldl_setField (h : (base.map (·.1)).Nodup) :
    ((upper.foldl (fun done p => setField p.1 p.2 done) base).map (·.1)).Nodup := by
  induction upper generalizing base with
  | nil => exact h
  | cons e rest ih => exact ih (nodup_setField h)

end Json
end TelemetryCheck
