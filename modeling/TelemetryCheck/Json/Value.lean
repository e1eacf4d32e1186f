namespace TelemetryCheck
namespace Json

/-- A JSON value; an object keeps its fields in order and each key once. -/
inductive Value
  | null
  | bool (b : Bool)
  | int (i : Int)
  | float (x : Float)
  | str (s : String)
  | arr (items : List Value)
  | obj (fields : List (String × Value))

/-- Puts a field in place: a key that is there keeps its place and takes the new value. -/
def setField {α : Type} (key : String) (value : α) : List (String × α) → List (String × α)
  | [] => [(key, value)]
  | (k, v) :: rest => if k = key then (k, value) :: rest else (k, v) :: setField key value rest

def field? {α : Type} (key : String) : List (String × α) → Option α
  | [] => none
  | (k, v) :: rest => if k = key then some v else field? key rest

theorem field?_setField {α : Type} (key : String) (value : α) (fields : List (String × α)) :
    field? key (setField key value fields) = some value := by
  induction fields with
  | nil => simp [setField, field?]
  | cons p rest ih =>
    obtain ⟨k, v⟩ := p
    by_cases h : k = key <;> simp [setField, field?, h, ih]

theorem field?_setField_ne {α : Type} {key other : String} (value : α)
    (fields : List (String × α)) (h : other ≠ key) :
    field? other (setField key value fields) = field? other fields := by
  induction fields with
  | nil => simp [setField, field?, h.symm]
  | cons p rest ih =>
    obtain ⟨k, v⟩ := p
    by_cases hk : k = key
    · subst hk; simp [setField, field?, h.symm]
    · by_cases ho : k = other
      · subst ho; simp [setField, field?, hk]
      · simp [setField, field?, hk, ho, ih]

end Json
end TelemetryCheck
