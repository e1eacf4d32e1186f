import TelemetryCheck.Proofs.Response.AttributeFaults
import TelemetryCheck.Proofs.Text.Digits

/-!
# Well-formed attribute values

A well-formed attribute value names no kind, or one kind with what that kind expects, and so do the
values nested in it.  Walking such a value does not end with a fault.
-/

namespace TelemetryCheck

namespace AnyValue

open Json (Value)

def kindsIn (fields : List (String × Value)) : List String :=
  kinds.filter fun k => (Json.field? k fields).isSome

def IsLong (i : Int) : Prop := -(Nat.pow 2 63 : Nat) ≤ i ∧ i < (Nat.pow 2 63 : Nat)

def writtenInteger (cs : List Char) : Int :=
  let value : Int := Text.digitsValue (Decimal.takeSign cs).2
  if (Decimal.takeSign cs).1 then -value else value

/-- An integer of 64 bits in decimal digits, with a sign or without.  It takes nineteen of them at
most; zeros may stand in front, up to the length of the longest text that is read as an integer. -/
structure IsLongText (s : String) : Prop where
  nonempty : (Decimal.takeSign s.toList).2 ≠ []
  digits : ∀ c ∈ (Decimal.takeSign s.toList).2, Text.isDigit c = true
  short : (Decimal.takeSign s.toList).2.length ≤ Decimal.maxIntegerDigits
  long : IsLong (writtenInteger s.toList)

inductive Scalar : String → Value → Prop
  | string (s : String) : Scalar "stringValue" (.str s)
  | bool (b : Bool) : Scalar "boolValue" (.bool b)
  | integer {i : Int} : IsLong i → Scalar "intValue" (.int i)
  | integerText {s : String} : IsLongText s → Scalar "intValue" (.str s)
  | double (x : Float) : Scalar "doubleValue" (.float x)
  | doubleInteger {i : Int} :
      Decimal.isFinite (Decimal.ofInt i) = true → Scalar "doubleValue" (.int i)
  | doubleWord {s : String} : s ∈ ["NaN", "Infinity", "-Infinity"] → Scalar "doubleValue" (.str s)
  | bytes (s : String) : Scalar "bytesValue" (.str s)

/-- What a list or a table holds; without the field it holds nothing. -/
def ItemsIn (inner : List (String × Value)) (items : List Value) : Prop :=
  Json.field? "values" inner = some (.arr items) ∨ Json.field? "values" inner = none ∧ items = []

/-- A record that names no kind or exactly one, with what the kind expects.  A table has texts as
keys, and an entry of it may leave its value out. -/
inductive WellFormed : Value → Prop
  | empty {fields : List (String × Value)} : kindsIn fields = [] → WellFormed (.obj fields)
  | scalar {fields : List (String × Value)} {kind : String} {v : Value} :
      kindsIn fields = [kind] → Json.field? kind fields = some v → Scalar kind v →
        WellFormed (.obj fields)
  | array {fields inner : List (String × Value)} {items : List Value} :
      kindsIn fields = ["arrayValue"] → Json.field? "arrayValue" fields = some (.obj inner) →
        ItemsIn inner items → (∀ v ∈ items, WellFormed v) → WellFormed (.obj fields)
  | table {fields inner : List (String × Value)} {entries : List (List (String × Value))} :
      kindsIn fields = ["kvlistValue"] → Json.field? "kvlistValue" fields = some (.obj inner) →
        ItemsIn inner (entries.map .obj) →
        (∀ entry ∈ entries, ∃ key, Json.field? "key" entry = some (.str key)) →
        (∀ entry ∈ entries, ∀ v, Json.field? "value" entry = some v → WellFormed v) →
        WellFormed (.obj fields)

/-! ## Scalars -/

theorem writtenInteger_intText (i : Int) : writtenInteger (Decimal.intText i).toList = i := by
  simp only [writtenInteger, Decimal.takeSign_intText, Text.digitsValue_toDigits]
  by_cases hneg : i < 0
  · rw [if_pos (decide_eq_true hneg), Int.ofNat_natAbs_of_nonpos (Int.le_of_lt hneg), Int.neg_neg]
  · rw [if_neg (by simpa using hneg), Int.natAbs_of_nonneg (Int.not_lt.mp hneg)]

/-- The usual text of an integer of 64 bits is one. -/
theorem isLongText_intText {i : Int} (h : IsLong i) : IsLongText (Decimal.intText i) where
  nonempty := by
    rw [Decimal.takeSign_intText]
    exact Nat.toDigits_ne_nil
  digits c hc := by
    rw [Decimal.takeSign_intText] at hc
    exact Decimal.isDigit_of_mem_toDigits hc
  short := by
    have hsize : i.natAbs < 10 ^ 19 := by
      have hlow : -(2 ^ 63 : Int) ≤ i := h.1
      have hhigh : i < (2 ^ 63 : Int) := h.2
      omega
    rw [Decimal.takeSign_intText]
    exact Nat.le_trans ((Nat.length_toDigits_le_iff (by decide) (by decide)).mpr hsize) (by decide)
  long := by
    rwa [writtenInteger_intText]

theorem integer_text {s : String} (h : IsLongText s) :
    integer (.str s) = .ok (writtenInteger s.toList) := by
  have hshort : ¬Decimal.maxIntegerDigits < (Decimal.takeSign s.toList).2.length :=
    Nat.not_lt.mpr h.short
  rw [integer, Decimal.readInteger_of_digits h.nonempty h.digits, if_neg hshort]
  rfl

theorem double_integer {i : Int} (h : Decimal.isFinite (Decimal.ofInt i) = true) :
    double (.int i) = .ok (Decimal.ofInt i) := by
  simp only [double, h, if_true]

theorem double_word {s : String} (h : s ∈ ["NaN", "Infinity", "-Infinity"]) :
    ∃ x, double (.str s) = .ok x := by
  simp only [List.mem_cons, List.not_mem_nil, or_false] at h
  rcases h with rfl | rfl | rfl
  all_goals exact ⟨_, rfl⟩

theorem Scalar.exists_plain {kind : String} {v : Value} (h : Scalar kind v) :
    ∃ p, valueOfKind kind v = .ok p := by
  cases h with
  | string s => exact ⟨.json (.str s), rfl⟩
  | bool b => exact ⟨.json (.bool b), rfl⟩
  | @integer i hlong => exact ⟨.json (.int i), rfl⟩
  | @integerText s htext =>
    refine ⟨.json (.int (writtenInteger s.toList)), ?_⟩
    rw [valueOfKind, integer_text htext]
    rfl
  | double x => exact ⟨.json (.float x), rfl⟩
  | @doubleInteger i hfinite =>
    refine ⟨.json (.float (Decimal.ofInt i)), ?_⟩
    rw [valueOfKind, double_integer hfinite]
    rfl
  | @doubleWord s hword =>
    obtain ⟨x, hx⟩ := double_word hword
    refine ⟨.json (.float x), ?_⟩
    rw [valueOfKind, hx]
    rfl
  | bytes s => exact ⟨.str ((Base64.decode? s).elim s Base64.hexText), rfl⟩

/-! ## Nested values -/

/-- A record comes to what the first of the kinds that it names comes to. -/
theorem plain_obj {fields : List (String × Value)} :
    plain (.obj fields) = (kindsIn fields).head?.elim (.ok (.str "")) fun kind =>
      (Json.field? kind fields).elim (.ok (.str "")) (valueOfKind kind) := by
  rw [kindsIn, List.head?_filter, plain]
  cases kinds.find? fun k => (Json.field? k fields).isSome with
  | none => rfl
  | some kind => exact plainField_eq kind fields

theorem arrayOf_items {inner : List (String × Value)} {items : List Value}
    (h : ItemsIn inner items) : arrayOf (.obj inner) = items.mapM plain := by
  rw [arrayOf, arrayField_eq]
  rcases h with h | ⟨h, rfl⟩
  · rw [h, Option.elim_some, arrayItems, plainList_eq]
  · rw [h]
    rfl

theorem exists_plainEntries {entries : List (List (String × Value))}
    (done : List (Value × Plain))
    (hkeys : ∀ entry ∈ entries, ∃ key, Json.field? "key" entry = some (.str key))
    (hvalues : ∀ entry ∈ entries, ∃ p, entryValue entry = .ok p) :
    ∃ table, plainEntries done (entries.map .obj) = .ok table := by
  induction entries generalizing done with
  | nil => exact ⟨done, rfl⟩
  | cons entry rest ih =>
    obtain ⟨key, hkey⟩ := hkeys entry List.mem_cons_self
    obtain ⟨p, hp⟩ := hvalues entry List.mem_cons_self
    obtain ⟨table, htable⟩ := ih (Plain.setEntry (.str key) p done)
      (fun e he => hkeys e (List.mem_cons_of_mem entry he))
      (fun e he => hvalues e (List.mem_cons_of_mem entry he))
    refine ⟨table, ?_⟩
    rw [List.map_cons, plainEntries, hkey, hp]
    exact htable

theorem tableOf_items {inner : List (String × Value)} {items : List Value}
    (h : ItemsIn inner items) : tableOf (.obj inner) = plainEntries [] items := by
  rw [tableOf, tableField_eq]
  rcases h with h | ⟨h, rfl⟩
  · rw [h, Option.elim_some, tableItems]
  · rw [h]
    rfl

/-- Walking a well-formed value comes to a plain value. -/
theorem WellFormed.exists_plain {v : Value} (h : WellFormed v) : ∃ p, plain v = .ok p := by
  induction h with
  | empty hkinds =>
    rw [plain_obj, hkinds]
    exact ⟨_, rfl⟩
  | scalar hkinds hfield hscalar =>
    obtain ⟨p, hp⟩ := hscalar.exists_plain
    refine ⟨p, ?_⟩
    rw [plain_obj, hkinds, List.head?_cons, Option.elim_some, hfield, Option.elim_some, hp]
  | array hkinds hfield hitems _ ih =>
    obtain ⟨items, hmap⟩ := exists_mapM_eq_ok ih
    refine ⟨.list items, ?_⟩
    rw [plain_obj, hkinds, List.head?_cons, Option.elim_some, hfield, Option.elim_some,
      valueOfKind, arrayOf_items hitems, hmap]
    rfl
  | @table fields inner entries hkinds hfield hitems hkeys _ ih =>
    have hvalues : ∀ entry ∈ entries, ∃ p, entryValue entry = .ok p := by
      intro entry hentry
      rw [entryValue_eq]
      cases hvalue : Json.field? "value" entry with
      | none => exact ⟨_, rfl⟩
      | some v => exact ih entry hentry v hvalue
    obtain ⟨table, htable⟩ := exists_plainEntries [] hkeys hvalues
    refine ⟨.table table, ?_⟩
    rw [plain_obj, hkinds, List.head?_cons, Option.elim_some, hfield, Option.elim_some]
    show (tableOf (.obj inner)).map Plain.table = _
    rw [tableOf_items hitems, htable]
    rfl

theorem WellFormed.exists_text {v : Value} (h : WellFormed v) : ∃ s, text v = .ok s := by
  obtain ⟨p, hp⟩ := h.exists_plain
  exact ⟨plainText p, by rw [text, hp]; rfl⟩

end AnyValue
end TelemetryCheck
