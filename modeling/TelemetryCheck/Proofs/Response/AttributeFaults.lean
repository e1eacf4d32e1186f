import TelemetryCheck.Proofs.FirstFailure
import TelemetryCheck.Response.Traces

/-!
# Faults of attribute values

Any JSON may stand for an attribute value, at any depth.  Walking it ends with its plain value or
with a fault.  Of the faults that can come up all but one kind are known to be signs of a malformed
attribute.  The other kind is a number that overflows: an infinite one where an integer is wanted,
or an integer beyond the doubles where a double is wanted.
-/

namespace TelemetryCheck
namespace AnyValue

open Json (Value)

/-- The kind that a record names: of several the one that is looked for first. -/
def kindOf (fields : List (String × Value)) : Option String :=
  kinds.find? fun k => (Json.field? k fields).isSome

/-- A number in an attribute value, or in one of the values nested in it, is beyond what its kind
can hold; the fault says which. -/
inductive Overflows : Fault → Value → Prop
  | integer {fields : List (String × Value)} {x : Float} {negative : Bool} :
      kindOf fields = some "intValue" → Json.field? "intValue" fields = some (.float x) →
        Decimal.parts x = .infinite negative → Overflows .infiniteInteger (.obj fields)
  | double {fields : List (String × Value)} {i : Int} :
      kindOf fields = some "doubleValue" → Json.field? "doubleValue" fields = some (.int i) →
        Decimal.isFinite (Decimal.ofInt i) = false → Overflows .floatTooLarge (.obj fields)
  | array {fields inner : List (String × Value)} {items : List Value} {v : Value} {f : Fault} :
      kindOf fields = some "arrayValue" → Json.field? "arrayValue" fields = some (.obj inner) →
        Json.field? "values" inner = some (.arr items) → v ∈ items → Overflows f v →
        Overflows f (.obj fields)
  | table {fields inner entry : List (String × Value)} {items : List Value} {v : Value}
      {f : Fault} :
      kindOf fields = some "kvlistValue" → Json.field? "kvlistValue" fields = some (.obj inner) →
        Json.field? "values" inner = some (.arr items) → .obj entry ∈ items →
        Json.field? "value" entry = some v → Overflows f v → Overflows f (.obj fields)

/-- The two faults of numbers are not among those that a malformed attribute is expected to lead
to. -/
theorem Overflows.not_malformed {f : Fault} {v : Value} (h : Overflows f v) :
    Response.isMalformedAttribute f = false := by
  induction h with
  | integer => decide
  | double => decide
  | array _ _ _ _ _ ih => exact ih
  | table _ _ _ _ _ _ ih => exact ih

/-! ## The walk as it looks at fields -/

def valueOfKind (kind : String) (v : Value) : Except Fault Plain :=
  match kind with
  | "stringValue" => .ok (.json v)
  | "boolValue" => .ok (.json (.bool (truth v)))
  | "intValue" => (integer v).map fun i => .json (.int i)
  | "doubleValue" => (double v).map fun x => .json (.float x)
  | "bytesValue" => (bytes v).map .str
  | "arrayValue" => (arrayOf v).map .list
  | _ => (tableOf v).map .table

/-- A walk along fields that stops at a key takes the value that the field has. -/
theorem eq_elim_field? {β : Type} {key : String} {walk : List (String × Value) → β} {absent : β}
    {present : Value → β} (hnil : walk [] = absent)
    (hcons : ∀ k v rest, walk ((k, v) :: rest) = if k = key then present v else walk rest)
    (fields : List (String × Value)) :
    walk fields = (Json.field? key fields).elim absent present := by
  induction fields with
  | nil => exact hnil
  | cons p rest ih =>
    obtain ⟨k, v⟩ := p
    rw [hcons, Json.field?]
    by_cases hkey : k = key
    · rw [if_pos hkey, if_pos hkey, Option.elim_some]
    · rw [if_neg hkey, if_neg hkey, ih]

theorem plainField_eq (kind : String) (fields : List (String × Value)) :
    plainField kind fields = (Json.field? kind fields).elim (.ok (.str "")) (valueOfKind kind) := by
  refine eq_elim_field? (by rw [plainField]) (fun k v rest => ?_) fields
  rw [plainField.eq_def]
  show (if k ≠ kind then plainField kind rest else valueOfKind kind v) = _
  rw [ite_not]

theorem arrayField_eq (fields : List (String × Value)) :
    arrayField fields = (Json.field? "values" fields).elim (.ok []) arrayItems :=
  eq_elim_field? (by rw [arrayField]) (fun k v rest => by rw [arrayField]) fields

theorem tableField_eq (fields : List (String × Value)) :
    tableField fields = (Json.field? "values" fields).elim (.ok []) tableItems :=
  eq_elim_field? (by rw [tableField]) (fun k v rest => by rw [tableField]) fields

theorem entryValue_eq (fields : List (String × Value)) :
    entryValue fields = (Json.field? "value" fields).elim (.ok (.str "")) plain :=
  eq_elim_field? (by rw [entryValue]) (fun k v rest => by rw [entryValue]) fields

theorem plainList_eq (items : List Value) : plainList items = items.mapM plain := by
  induction items with
  | nil => rw [plainList, List.mapM_nil]; rfl
  | cons v rest ih => rw [plainList, List.mapM_cons, ih]

/-! ## Faults of each kind -/

open Response (isMalformedAttribute)

variable {v : Value} {f : Fault}

theorem integer_error (h : integer v = .error f) :
    isMalformedAttribute f = true ∨
      f = .infiniteInteger ∧ ∃ x negative, v = .float x ∧ Decimal.parts x = .infinite negative := by
  cases v with
  | int i => cases h
  | bool b => cases h
  | float x =>
    rw [integer, truncate] at h
    cases hx : Decimal.parts x with
    | notANumber =>
      rw [hx] at h
      cases h
      exact .inl rfl
    | infinite negative =>
      rw [hx] at h
      cases h
      exact .inr ⟨rfl, x, negative, rfl, hx⟩
    | finite negative mantissa exponent =>
      rw [hx] at h
      cases h
  | str s =>
    rw [integer] at h
    cases hs : Decimal.readInteger s.toList with
    | ok i =>
      rw [hs] at h
      cases h
    | error e =>
      rw [hs] at h
      cases h
      cases e <;> exact .inl rfl
  | null | arr items | obj fields =>
    cases h
    exact .inl rfl

theorem double_error (h : double v = .error f) :
    isMalformedAttribute f = true ∨
      f = .floatTooLarge ∧ ∃ i, v = .int i ∧ Decimal.isFinite (Decimal.ofInt i) = false := by
  cases v with
  | int i =>
    rw [double] at h
    cases hi : Decimal.isFinite (Decimal.ofInt i) with
    | true =>
      simp only [hi, if_true] at h
      cases h
    | false =>
      simp only [hi, Bool.false_eq_true, if_false] at h
      cases h
      exact .inr ⟨rfl, i, rfl, hi⟩
  | bool b => cases h
  | float x => cases h
  | str s =>
    rw [double] at h
    cases hs : Decimal.readFloat? s.toList with
    | some x =>
      rw [hs] at h
      cases h
    | none =>
      rw [hs] at h
      cases h
      exact .inl rfl
  | null | arr items | obj fields =>
    cases h
    exact .inl rfl

theorem bytes_error (h : bytes v = .error f) : isMalformedAttribute f = true := by
  cases v <;> cases h <;> rfl

theorem plainOfText_error {s : String} (h : plainOfText s = .error f) :
    isMalformedAttribute f = true := by
  unfold plainOfText at h
  split at h <;> cases h
  rfl

theorem plainOfList_error {items : List Value} (h : plainOfList items = .error f) :
    isMalformedAttribute f = true := by
  unfold plainOfList at h
  split at h <;> cases h
  rfl

/-! ## Faults of nested values -/

theorem arrayItems_error (h : arrayItems v = .error f) :
    isMalformedAttribute f = true ∨
      ∃ items w, v = .arr items ∧ w ∈ items ∧ plain w = .error f := by
  cases v with
  | arr items =>
    rw [arrayItems, plainList_eq] at h
    obtain ⟨w, hw, hplain⟩ := exists_of_mapM_error h
    exact .inr ⟨items, w, rfl, hw, hplain⟩
  | obj fields =>
    rw [arrayItems] at h
    obtain ⟨p, -, hp⟩ := exists_of_mapM_error h
    exact .inl (plainOfText_error hp)
  | str s =>
    rw [arrayItems] at h
    obtain ⟨c, -, hc⟩ := exists_of_mapM_error h
    exact .inl (plainOfText_error hc)
  | null | bool b | int i | float x =>
    cases h
    exact .inl rfl

theorem arrayOf_error (h : arrayOf v = .error f) :
    isMalformedAttribute f = true ∨
      ∃ inner items w, v = .obj inner ∧ Json.field? "values" inner = some (.arr items) ∧
        w ∈ items ∧ plain w = .error f := by
  cases v with
  | obj inner =>
    rw [arrayOf, arrayField_eq] at h
    cases hvalues : Json.field? "values" inner with
    | none =>
      rw [hvalues] at h
      cases h
    | some values =>
      rw [hvalues, Option.elim_some] at h
      rcases arrayItems_error h with hf | ⟨items, w, rfl, hw, hplain⟩
      · exact .inl hf
      · exact .inr ⟨inner, items, w, rfl, hvalues, hw, hplain⟩
  | null | bool b | int i | float x | str s | arr items =>
    cases h
    exact .inl rfl

theorem scalarKey_error (h : scalarKey v = .error f) : isMalformedAttribute f = true := by
  cases v <;> cases h <;> rfl

theorem plainEntries_error {done : List (Value × Plain)} {items : List Value}
    (h : plainEntries done items = .error f) :
    isMalformedAttribute f = true ∨
      ∃ entry w, .obj entry ∈ items ∧ Json.field? "value" entry = some w ∧ plain w = .error f := by
  induction items generalizing done with
  | nil => cases h
  | cons item rest ih =>
    cases item with
    | obj entry =>
      rw [plainEntries] at h
      cases hkey : Json.field? "key" entry with
      | none =>
        rw [hkey] at h
        cases h
        exact .inl rfl
      | some key =>
        rw [hkey] at h
        -- the value is walked before the key is looked at, and the key before what follows
        rcases bind_eq_error h with hvalue | ⟨value, -, h⟩
        · rw [entryValue_eq] at hvalue
          cases hfield : Json.field? "value" entry with
          | none =>
            rw [hfield] at hvalue
            cases hvalue
          | some w =>
            rw [hfield, Option.elim_some] at hvalue
            exact .inr ⟨entry, w, List.mem_cons_self, hfield, hvalue⟩
        rcases bind_eq_error h with hscalar | ⟨scalar, -, h⟩
        · exact .inl (scalarKey_error hscalar)
        rcases ih h with hf | ⟨later, w, hlater, hrest⟩
        · exact .inl hf
        · exact .inr ⟨later, w, List.mem_cons_of_mem _ hlater, hrest⟩
    | null | bool b | int i | float x | str s | arr items =>
      cases h
      exact .inl rfl

theorem tableOf_error (h : tableOf v = .error f) :
    isMalformedAttribute f = true ∨
      ∃ inner items entry w, v = .obj inner ∧ Json.field? "values" inner = some (.arr items) ∧
        .obj entry ∈ items ∧ Json.field? "value" entry = some w ∧ plain w = .error f := by
  cases v with
  | obj inner =>
    rw [tableOf, tableField_eq] at h
    cases hvalues : Json.field? "values" inner with
    | none =>
      rw [hvalues] at h
      cases h
    | some values =>
      rw [hvalues, Option.elim_some] at h
      cases values with
      | arr items =>
        rw [tableItems] at h
        rcases plainEntries_error h with hf | ⟨entry, w, hentry, hw, hplain⟩
        · exact .inl hf
        · exact .inr ⟨inner, items, entry, w, rfl, hvalues, hentry, hw, hplain⟩
      | obj fields =>
        rw [tableItems] at h
        split at h <;> cases h
        exact .inl rfl
      | str s =>
        rw [tableItems] at h
        split at h <;> cases h
        exact .inl rfl
      | null | bool b | int i | float x =>
        cases h
        exact .inl rfl
  | null | bool b | int i | float x | str s | arr items =>
    cases h
    exact .inl rfl

/-! ## Every fault -/

theorem sizeOf_lt_of_field? {key : String} {fields : List (String × Value)}
    (h : Json.field? key fields = some v) : sizeOf v < sizeOf (Value.obj fields) := by
  induction fields with
  | nil => cases h
  | cons p rest ih =>
    obtain ⟨k, w⟩ := p
    rw [Json.field?] at h
    simp only [Value.obj.sizeOf_spec, List.cons.sizeOf_spec, Prod.mk.sizeOf_spec] at ih ⊢
    split at h
    · cases h
      omega
    · have hrest := ih h
      omega

theorem sizeOf_lt_of_mem_items {items : List Value} (h : v ∈ items) :
    sizeOf v < sizeOf (Value.arr items) := by
  have hmem := List.sizeOf_lt_of_mem h
  rw [Value.arr.sizeOf_spec]
  omega

/-- A record faults where the field of its kind does. -/
theorem plain_obj_error {fields : List (String × Value)} (h : plain (.obj fields) = .error f) :
    ∃ kind w, kind ∈ kinds ∧ kindOf fields = some kind ∧ Json.field? kind fields = some w ∧
      valueOfKind kind w = .error f := by
  rw [plain] at h
  cases hkind : kindOf fields with
  | none =>
    rw [kindOf] at hkind
    rw [hkind] at h
    cases h
  | some kind =>
    rw [kindOf] at hkind
    rw [hkind] at h
    have hpresent := List.find?_some hkind
    obtain ⟨w, hw⟩ := Option.isSome_iff_exists.mp hpresent
    replace h : plainField kind fields = .error f := h
    rw [plainField_eq, hw, Option.elim_some] at h
    exact ⟨kind, w, List.mem_of_find?_eq_some hkind, rfl, hw, h⟩

/-- A fault of an attribute value is one that a malformed attribute is expected to lead to, or a
number in it overflows.  The induction is on the size of the value: what lies in its array or in
its table is smaller. -/
theorem plain_error (h : plain v = .error f) :
    isMalformedAttribute f = true ∨ Overflows f v := by
  induction hn : sizeOf v using Nat.strongRecOn generalizing v f with
  | ind n ih =>
  subst hn
  cases v with
  | obj fields =>
    obtain ⟨kind, w, hmem, hkind, hfield, hvalue⟩ := plain_obj_error h
    have hfieldSize := sizeOf_lt_of_field? hfield
    simp only [kinds, List.mem_cons, List.not_mem_nil, or_false] at hmem
    rcases hmem with rfl | rfl | rfl | rfl | rfl | rfl | rfl
    · cases hvalue
    · cases hvalue
    · rcases integer_error (map_eq_error hvalue) with hf | ⟨rfl, x, negative, rfl, hx⟩
      · exact .inl hf
      · exact .inr (.integer hkind hfield hx)
    · rcases double_error (map_eq_error hvalue) with hf | ⟨rfl, i, rfl, hi⟩
      · exact .inl hf
      · exact .inr (.double hkind hfield hi)
    · exact .inl (bytes_error (map_eq_error hvalue))
    · rcases arrayOf_error (map_eq_error hvalue) with
        hf | ⟨inner, items, u, rfl, hitems, hu, hplain⟩
      · exact .inl hf
      · have hitemsSize := sizeOf_lt_of_field? hitems
        have huSize := sizeOf_lt_of_mem_items hu
        rcases ih _ (by omega) hplain rfl with hf | hover
        · exact .inl hf
        · exact .inr (.array hkind hfield hitems hu hover)
    · rcases tableOf_error (map_eq_error hvalue) with
        hf | ⟨inner, items, entry, u, rfl, hitems, hentry, hu, hplain⟩
      · exact .inl hf
      · have hitemsSize := sizeOf_lt_of_field? hitems
        have hentrySize := sizeOf_lt_of_mem_items hentry
        have huSize := sizeOf_lt_of_field? hu
        rcases ih _ (by omega) hplain rfl with hf | hover
        · exact .inl hf
        · exact .inr (.table hkind hfield hitems hentry hu hover)
  | arr items =>
    rw [plain] at h
    exact .inl (plainOfList_error h)
  | str s =>
    rw [plain] at h
    exact .inl (plainOfText_error h)
  | null | bool b | int i | float x =>
    cases h
    exact .inl rfl

end AnyValue
end TelemetryCheck
