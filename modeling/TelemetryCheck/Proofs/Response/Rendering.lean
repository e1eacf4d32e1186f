import TelemetryCheck.Proofs.Json.RoundTrip
import TelemetryCheck.Proofs.Response.WellFormed

/-!
# Rendered attribute values

An attribute value whose leaves are texts, truth values and integers stands for a tree of JSON.  Its
text is the text of that tree, so the tree is read back from it, and values that stand for different
trees have different texts.
-/

namespace TelemetryCheck
namespace AnyValue

open Json (Value)

/-! ## What a value stands for -/

inductive Leaf : String → Value → Value → Prop
  | string (s : String) : Leaf "stringValue" (.str s) (.str s)
  | bool (b : Bool) : Leaf "boolValue" (.bool b) (.bool b)
  | integer {i : Int} : IsLong i → Leaf "intValue" (.int i) (.int i)
  | integerText {s : String} : IsLongText s →
      Leaf "intValue" (.str s) (.int (writtenInteger s.toList))

/-- An entry of a table with its key, its value and what the value stands for. -/
structure Row where
  entry : List (String × Value)
  key : String
  value : Value
  tree : Value

structure Row.Fits (r : Row) : Prop where
  key : Json.field? "key" r.entry = some (.str r.key)
  value : Json.field? "value" r.entry = some r.value

/-- A record stands for a tree.  The items of a list come with what each of them stands for, and the
keys of a table are texts that are there once. -/
inductive StandsFor : Value → Value → Prop
  | leaf {fields : List (String × Value)} {kind : String} {v tree : Value} :
      kindsIn fields = [kind] → Json.field? kind fields = some v → Leaf kind v tree →
        StandsFor (.obj fields) tree
  | list {fields inner : List (String × Value)} {pairs : List (Value × Value)} :
      kindsIn fields = ["arrayValue"] → Json.field? "arrayValue" fields = some (.obj inner) →
        ItemsIn inner (pairs.map (·.1)) → (∀ p ∈ pairs, StandsFor p.1 p.2) →
        StandsFor (.obj fields) (.arr (pairs.map (·.2)))
  | table {fields inner : List (String × Value)} {rows : List Row} :
      kindsIn fields = ["kvlistValue"] → Json.field? "kvlistValue" fields = some (.obj inner) →
        ItemsIn inner (rows.map fun r => .obj r.entry) → (∀ r ∈ rows, r.Fits) →
        (rows.map Row.key).Nodup → (∀ r ∈ rows, StandsFor r.value r.tree) →
        StandsFor (.obj fields) (.obj (rows.map fun r => (r.key, r.tree)))

inductive IsContainer : Value → Prop
  | list (items : List Value) : IsContainer (.arr items)
  | table (fields : List (String × Value)) : IsContainer (.obj fields)

/-! ## Trees as plain values -/

mutual

def ofTree : Value → Plain
  | .arr items => .list (ofItems items)
  | .obj fields => .table (ofFields fields)
  | v => .json v

def ofItems : List Value → List Plain
  | [] => []
  | v :: rest => ofTree v :: ofItems rest

def ofFields : List (String × Value) → List (Value × Plain)
  | [] => []
  | (key, v) :: rest => (.str key, ofTree v) :: ofFields rest

end

theorem ofItems_eq_map (items : List Value) : ofItems items = items.map ofTree := by
  induction items with
  | nil => rfl
  | cons v rest ih => rw [ofItems, ih, List.map_cons]

theorem ofFields_eq_map (fields : List (String × Value)) :
    ofFields fields = fields.map fun p => (.str p.1, ofTree p.2) := by
  induction fields with
  | nil => rfl
  | cons p rest ih => rw [ofFields, ih, List.map_cons]

mutual

/-- A tree has one text, taken apart or not. -/
theorem compact_ofTree : ∀ v : Value, compact (ofTree v) = Json.compact v
  | .arr items => by rw [ofTree, compact, compactItems_ofItems items, Json.compact]
  | .obj fields => by rw [ofTree, compact, compactEntries_ofFields fields, Json.compact]
  | .null | .bool _ | .int _ | .float _ | .str _ => by rw [ofTree, compact] <;> simp

theorem compactItems_ofItems : ∀ items : List Value,
    compactItems (ofItems items) = Json.compactItems items
  | [] => rfl
  | [v] => compact_ofTree v
  | v :: w :: rest => by
    have hrest := compactItems_ofItems (w :: rest)
    rw [ofItems] at hrest
    rw [ofItems, ofItems, compactItems, compact_ofTree v, hrest]
    · rfl
    · exact List.cons_ne_nil _ _

theorem compactEntries_ofFields : ∀ fields : List (String × Value),
    compactEntries (ofFields fields) = Json.compactFields fields
  | [] => rfl
  | [(key, v)] => by
    rw [ofFields, ofFields, compactEntries, compact_ofTree v, Json.compactFields, keyText]
  | (key, v) :: (k, w) :: rest => by
    have hrest := compactEntries_ofFields ((k, w) :: rest)
    rw [ofFields] at hrest
    rw [ofFields, ofFields, compactEntries, compact_ofTree v, hrest, keyText]
    · rfl
    · exact List.cons_ne_nil _ _

end

theorem plainText_ofTree {tree : Value} (h : IsContainer tree) :
    plainText (ofTree tree) = Json.compact tree := by
  rw [← compact_ofTree]
  cases h <;> rfl

/-! ## Walking a value -/

theorem Leaf.plain {kind : String} {v tree : Value} (h : Leaf kind v tree) :
    valueOfKind kind v = .ok (ofTree tree) := by
  cases h with
  | string s => rfl
  | bool b => rfl
  | integer _ => rfl
  | integerText htext =>
    rw [valueOfKind, integer_text htext]
    rfl

/-- An entry with a key that is not there yet comes last. -/
theorem setEntry_of_not_mem {key : String} {value : Plain} {fields : List (String × Value)}
    (h : key ∉ fields.map (·.1)) :
    Plain.setEntry (.str key) value (ofFields fields) = ofFields fields ++ [(.str key, value)] := by
  induction fields with
  | nil => rfl
  | cons p rest ih =>
    obtain ⟨k, v⟩ := p
    rw [List.map_cons, List.mem_cons, not_or] at h
    have hother : Plain.sameKey (.str k) (.str key) = false := beq_false_of_ne (Ne.symm h.1)
    rw [ofFields, Plain.setEntry, hother, if_neg Bool.false_ne_true, ih h.2, List.cons_append]

theorem Row.Fits.entryValue {r : Row} (h : r.Fits) (hplain : plain r.value = .ok (ofTree r.tree)) :
    AnyValue.entryValue r.entry = .ok (ofTree r.tree) := by
  rw [entryValue_eq, h.value, Option.elim_some, hplain]

/-- The rows of a table are put in place one after the other behind those that are there. -/
theorem plainEntries_rows {rows : List Row} (done : List (String × Value))
    (hfits : ∀ r ∈ rows, r.Fits) (hplain : ∀ r ∈ rows, plain r.value = .ok (ofTree r.tree))
    (honce : (done.map (·.1) ++ rows.map Row.key).Nodup) :
    plainEntries (ofFields done) (rows.map fun r => .obj r.entry) =
      .ok (ofFields (done ++ rows.map fun r => (r.key, r.tree))) := by
  induction rows generalizing done with
  | nil => rw [List.map_nil, List.map_nil, List.append_nil, plainEntries]
  | cons r rest ih =>
    have hfit := hfits r List.mem_cons_self
    have hnew : r.key ∉ done.map (·.1) := fun hmem =>
      (List.nodup_append.mp honce).2.2 _ hmem _ List.mem_cons_self rfl
    have hput : Plain.setEntry (.str r.key) (ofTree r.tree) (ofFields done) =
        ofFields (done ++ [(r.key, r.tree)]) := by
      rw [setEntry_of_not_mem hnew, ofFields_eq_map, ofFields_eq_map, List.map_append]
      rfl
    have hrest := ih (done ++ [(r.key, r.tree)])
      (fun q hq => hfits q (List.mem_cons_of_mem r hq))
      (fun q hq => hplain q (List.mem_cons_of_mem r hq))
      (by simpa [List.append_assoc] using honce)
    rw [List.append_assoc, List.singleton_append] at hrest
    rw [List.map_cons, plainEntries, hfit.key, hfit.entryValue (hplain r List.mem_cons_self)]
    show plainEntries (Plain.setEntry (.str r.key) (ofTree r.tree) (ofFields done)) _ = _
    rw [hput, hrest, List.map_cons]

/-- Walking a value comes to the tree that it stands for. -/
theorem StandsFor.plain {v tree : Value} (h : StandsFor v tree) :
    AnyValue.plain v = .ok (ofTree tree) := by
  induction h with
  | leaf hkinds hfield hleaf =>
    rw [plain_obj, hkinds, List.head?_cons, Option.elim_some, hfield, Option.elim_some, hleaf.plain]
  | @list fields inner pairs hkinds hfield hitems _ ih =>
    have hmap : (pairs.map (·.1)).mapM AnyValue.plain = .ok (ofItems (pairs.map (·.2))) := by
      rw [List.mapM_map, mapM_eq_ok (g := fun p => ofTree p.2) ih, ofItems_eq_map, List.map_map]
      rfl
    rw [plain_obj, hkinds, List.head?_cons, Option.elim_some, hfield, Option.elim_some, valueOfKind,
      arrayOf_items hitems, hmap]
    rfl
  | @table fields inner rows hkinds hfield hitems hfits honce _ ih =>
    have hrows := plainEntries_rows [] hfits ih honce
    rw [List.nil_append] at hrows
    rw [plain_obj, hkinds, List.head?_cons, Option.elim_some, hfield, Option.elim_some]
    show (tableOf (.obj inner)).map Plain.table = _
    rw [tableOf_items hitems]
    show (plainEntries (ofFields []) _).map Plain.table = _
    rw [hrows]
    rfl

theorem StandsFor.text {v tree : Value} (h : StandsFor v tree) (hcontainer : IsContainer tree) :
    AnyValue.text v = .ok (Json.compact tree) := by
  rw [AnyValue.text, h.plain, ← plainText_ofTree hcontainer]
  rfl

/-! ## Reading the tree back -/

theorem IsLong.exact {i : Int} (h : IsLong i) : Json.Exact (.int i) := by
  have hshort := (isLongText_intText h).short
  rw [Decimal.takeSign_intText] at hshort
  exact .int hshort

theorem StandsFor.exact {v tree : Value} (h : StandsFor v tree) : Json.Exact tree := by
  induction h with
  | leaf _ _ hleaf =>
    cases hleaf with
    | string s => exact .str s
    | bool b => exact .bool b
    | integer hlong => exact hlong.exact
    | integerText htext => exact htext.long.exact
  | list _ _ _ _ ih =>
    refine .arr fun tree htree => ?_
    obtain ⟨p, hp, rfl⟩ := List.mem_map.mp htree
    exact ih p hp
  | @table _ _ rows _ _ _ _ honce _ ih =>
    refine .obj ?_ fun field hfield => ?_
    · rw [List.map_map]
      exact honce
    · obtain ⟨r, hr, rfl⟩ := List.mem_map.mp hfield
      exact ih r hr

/-- From the text of a list or of a table the tree that it stands for is read back: its items in
order, its keys in order, and its leaves.  No list or table that stands for another tree has the
same text. -/
theorem text_readBack {v tree : Value} (h : StandsFor v tree) (hcontainer : IsContainer tree) :
    ∃ s, text v = .ok s ∧
      (∀ limit, Json.nesting tree ≤ limit → Json.readWithin limit s.toList = some tree) ∧
      ∀ w other, StandsFor w other → IsContainer other → other ≠ tree → text w ≠ .ok s := by
  refine ⟨Json.compact tree, h.text hcontainer, fun limit => Json.readWithin_compact h.exact, ?_⟩
  intro w other hw hother hne hsame
  rw [hw.text hother, Except.ok.injEq] at hsame
  -- A reader that goes along with both trees reads each of them from the one text.
  have hfirst := Json.readWithin_compact h.exact (Nat.le_max_left _ (Json.nesting other))
  have hsecond := Json.readWithin_compact hw.exact (Nat.le_max_right (Json.nesting tree) _)
  rw [hsame, hfirst, Option.some.injEq] at hsecond
  exact hne hsecond.symm

def names : Value :=
  .obj [("arrayValue", .obj [("values",
    .arr [.obj [("stringValue", .str "\"é")], .obj [("intValue", .str "-42")]])])]

def hostRows : List Row :=
  [⟨[("key", .str "names"), ("value", names)], "names", names, .arr [.str "\"é", .int (-42)]⟩,
    ⟨[("key", .str "up"), ("value", .obj [("boolValue", .bool true)])], "up",
      .obj [("boolValue", .bool true)], .bool true⟩]

def hosts : Value :=
  .obj [("kvlistValue", .obj [("values", .arr (hostRows.map fun r => .obj r.entry))])]

def hostsTree : Value :=
  .obj [("names", .arr [.str "\"é", .int (-42)]), ("up", .bool true)]

theorem names_standsFor : StandsFor names (.arr [.str "\"é", .int (-42)]) := by
  have htext : IsLongText "-42" :=
    { nonempty := by decide, digits := List.all_eq_true.mp (by decide), short := by decide
      long := ⟨by decide, by decide⟩ }
  have hname : StandsFor (.obj [("stringValue", .str "\"é")]) (.str "\"é") :=
    .leaf rfl rfl (.string _)
  have hnumber : StandsFor (.obj [("intValue", .str "-42")]) (.int (-42)) :=
    .leaf rfl rfl (.integerText htext)
  exact @StandsFor.list _ _ [(_, .str "\"é"), (_, .int (-42))] rfl rfl (.inl rfl)
    (List.forall_mem_cons.mpr ⟨hname, List.forall_mem_singleton.mpr hnumber⟩)

theorem hosts_standsFor : StandsFor hosts hostsTree := by
  have hup : StandsFor (.obj [("boolValue", .bool true)]) (.bool true) :=
    .leaf rfl rfl (.bool true)
  refine @StandsFor.table _ _ hostRows rfl rfl (.inl rfl) ?_ (by decide) ?_
  · exact List.forall_mem_cons.mpr ⟨⟨rfl, rfl⟩, List.forall_mem_singleton.mpr ⟨rfl, rfl⟩⟩
  · exact List.forall_mem_cons.mpr ⟨names_standsFor, List.forall_mem_singleton.mpr hup⟩

/-- A reader of what is sent gets the table back. -/
theorem hosts_readBack :
    ∃ s, text hosts = .ok s ∧ Json.readWithin Json.maxDepth s.toList = some hostsTree := by
  obtain ⟨s, hs, hread, -⟩ := text_readBack hosts_standsFor (.table _)
  exact ⟨s, hs, hread _ (by decide)⟩

end AnyValue
end TelemetryCheck
