import TelemetryCheck.Conversion.Definition
import TelemetryCheck.Proofs.Conversion.Converted

/-!
# Strict keys

Every record that a definition is made of may hold only the fields of its kind, each under one key.
Whatever else it holds is complained about, at the place where it stands, so nothing that a
definition says is passed over.
-/

namespace TelemetryCheck
namespace Conversion

/-! ## The records of a definition -/

inductive Kind
  | definition
  | dockerCompose
  | kubernetes
  | matrixVariant
  | input
  | expected
  | logs
  | traces
  | span
  | metrics
  | profiles
  | flamebearers
  | customCheck
  | countRange

def Kind.keys : Kind → List FieldKey
  | .definition => definitionKeys
  | .dockerCompose => dockerComposeKeys
  | .kubernetes => kubernetesKeys
  | .matrixVariant => matrixVariantKeys
  | .input => inputKeys
  | .expected => expectedKeys
  | .logs => logsKeys
  | .traces => tracesKeys
  | .span => spanKeys
  | .metrics => metricsKeys
  | .profiles => profilesKeys
  | .flamebearers => flamebearersKeys
  | .customCheck => customCheckKeys
  | .countRange => countRangeKeys

inductive Layout
  | single
  | list

structure Slot where
  key : FieldKey
  layout : Layout
  kind : Kind

open FieldKey (plain)

def Kind.slots : Kind → List Slot
  | .definition =>
    [⟨Key.dockerCompose, .single, .dockerCompose⟩, ⟨Key.kubernetes, .single, .kubernetes⟩,
      ⟨plain "matrix", .list, .matrixVariant⟩, ⟨plain "input", .list, .input⟩,
      ⟨plain "expected", .single, .expected⟩]
  | .matrixVariant =>
    [⟨Key.dockerCompose, .single, .dockerCompose⟩, ⟨Key.kubernetes, .single, .kubernetes⟩]
  | .expected =>
    [⟨plain "logs", .list, .logs⟩, ⟨plain "traces", .list, .traces⟩,
      ⟨plain "metrics", .list, .metrics⟩, ⟨plain "profiles", .list, .profiles⟩,
      ⟨customChecksKey, .list, .customCheck⟩]
  | .logs => [⟨plain "count", .single, .countRange⟩]
  | .traces => [⟨plain "count", .single, .countRange⟩, ⟨plain "spans", .list, .span⟩]
  | .profiles => [⟨plain "flamebearers", .single, .flamebearers⟩]
  | _ => []

/-- A record that stands in a field, with the way from the field to it. -/
inductive Layout.Holds : Layout → Data → List String → Entries → Prop
  | single (es : Entries) : Holds .single (.record es) [] es
  | item {d : Data} {items : List Data} {i : Nat} {es : Entries} :
      items? d = some items → items[i]? = some (.record es) → Holds .list d [toString i] es

/-- A record inside another one, at any depth, with the keys and indices that lead to it.  Of a field
that is given under both of its keys the one that counts leads on. -/
inductive Reaches : Kind → Entries → List String → Kind → Entries → Prop
  | refl (kind : Kind) (es : Entries) : Reaches kind es [] kind es
  | step {kind inner : Kind} {es between deep : Entries} {slot : Slot} {written : String} {d : Data}
      {way place : List String} :
      slot ∈ kind.slots → writtenKey? slot.key es = some written → lookup? written es = some d →
        slot.layout.Holds d way between → Reaches slot.kind between place inner deep →
        Reaches kind es (written :: way ++ place) inner deep

/-! ## Keys that belong and keys that do not -/

def FieldKey.IsAddressedBy (f : FieldKey) (k : String) : Prop := k = f.dashed ∨ k = f.name

/-- Every key is one of a field of the kind, and no two keys are those of one field. -/
structure Declared (kind : Kind) (es : Entries) : Prop where
  known : ∀ p ∈ es, ∃ k, p.1 = .text k ∧ ∃ f ∈ kind.keys, f.IsAddressedBy k
  once : ∀ f ∈ kind.keys, ∀ k l v w, (.text k, v) ∈ es → (.text l, w) ∈ es →
    f.IsAddressedBy k → f.IsAddressedBy l → k = l

/-- A key of a record that belongs to no field of the kind, or to one that is given under its other
key too. -/
inductive Stray (kind : Kind) (es : Entries) : Data → Prop
  | notText {key v : Data} : (key, v) ∈ es → (∀ k, key ≠ .text k) → Stray kind es key
  | unknown {k : String} {v : Data} : (.text k, v) ∈ es →
      (∀ f ∈ kind.keys, ¬f.IsAddressedBy k) → Stray kind es (.text k)
  | twice {f : FieldKey} {v w : Data} : f ∈ kind.keys → f.dashed ≠ f.name →
      (.text f.dashed, v) ∈ es → (.text f.name, w) ∈ es → Stray kind es (.text f.name)

def strayMessage : Data → String
  | .text _ => "Extra inputs are not permitted"
  | _ => "Keys should be strings"

variable {kind inner : Kind} {es deep : Entries} {key : Data}

theorem isSome_lookup?_of_mem {k : String} {v : Data} (h : (.text k, v) ∈ es) :
    (lookup? k es).isSome = true := by
  induction es with
  | nil => exact absurd h List.not_mem_nil
  | cons p rest ih =>
    obtain ⟨key, w⟩ := p
    rcases List.mem_cons.mp h with heq | hrest
    · cases heq
      rw [lookup?, if_pos rfl]
      rfl
    · cases key with
      | text l =>
        rw [lookup?]
        split
        · rfl
        · exact ih hrest
      | _ => exact ih hrest

theorem writtenKey?_of_dashed {f : FieldKey} (h : (lookup? f.dashed es).isSome = true) :
    writtenKey? f es = some f.dashed := by
  rw [writtenKey?, if_pos h]

theorem isAddressedBy_of_writtenKey? {f : FieldKey} {k : String} (h : writtenKey? f es = some k) :
    f.IsAddressedBy k := by
  unfold writtenKey? at h
  split at h
  · exact .inl (Option.some.inj h).symm
  · split at h
    · exact .inr (Option.some.inj h).symm
    · cases h

/-- No two fields of a kind share a key. -/
theorem Kind.eq_of_isAddressedBy {f g : FieldKey} {k : String} (hf : f ∈ kind.keys)
    (hg : g ∈ kind.keys) (hfk : f.IsAddressedBy k) (hgk : g.IsAddressedBy k) : f = g := by
  have hshared : ∀ f ∈ kind.keys, ∀ g ∈ kind.keys,
      f.dashed = g.dashed ∨ f.dashed = g.name ∨ f.name = g.dashed ∨ f.name = g.name → f = g := by
    cases kind <;> decide
  refine hshared f hf g hg ?_
  rcases hfk with rfl | rfl
  · exact hgk.elim .inl fun h => .inr (.inl h)
  · exact hgk.elim (fun h => .inr (.inr (.inl h))) fun h => .inr (.inr (.inr h))

theorem mem_unknownKeys {keys : List FieldKey} {k : String} {v : Data} (h : (.text k, v) ∈ es)
    (hunused : ∀ f ∈ keys, writtenKey? f es ≠ some k) :
    ⟨[k], strayMessage (.text k)⟩ ∈ unknownKeys keys es := by
  have hused : ((keys.filterMap fun f => writtenKey? f es).contains k) = false := by
    refine Bool.eq_false_iff.mpr fun hmem => ?_
    obtain ⟨f, hf, hwritten⟩ := List.mem_filterMap.mp (List.contains_iff_mem.mp hmem)
    exact hunused f hf hwritten
  refine List.mem_filterMap.mpr ⟨_, h, ?_⟩
  show (if _ then none else some _) = some _
  rw [hused]
  rfl

theorem Stray.mem_unknownKeys (h : Stray kind es key) :
    ⟨[key.placeText], strayMessage key⟩ ∈ unknownKeys kind.keys es := by
  cases h with
  | @notText _ v hmem hkey =>
    refine List.mem_filterMap.mpr ⟨(key, v), hmem, ?_⟩
    cases key with
    | text k => exact absurd rfl (hkey k)
    | _ => rfl
  | unknown hmem hkey =>
    exact Conversion.mem_unknownKeys hmem fun f hf hwritten =>
      hkey f hf (isAddressedBy_of_writtenKey? hwritten)
  | @twice f v w hf hne hdashed hname =>
    refine Conversion.mem_unknownKeys hname fun g hg hwritten => ?_
    -- only the field itself could count under its name, and it counts under its other key
    have hsame := Kind.eq_of_isAddressedBy hf hg (.inr rfl) (isAddressedBy_of_writtenKey? hwritten)
    subst hsame
    rw [writtenKey?_of_dashed (isSome_lookup?_of_mem hdashed)] at hwritten
    exact hne (Option.some.inj hwritten)

/-- Where no key is stray every key belongs. -/
theorem declared_of_not_stray (h : ∀ key, ¬Stray kind es key) : Declared kind es where
  known p hp := by
    obtain ⟨key, v⟩ := p
    by_cases htext : ∃ k, key = .text k
    · obtain ⟨k, rfl⟩ := htext
      refine ⟨k, rfl, Classical.byContradiction fun hnone => ?_⟩
      exact h _ (.unknown hp fun f hf hk => hnone ⟨f, hf, hk⟩)
    · exact absurd (.notText hp fun k hk => htext ⟨k, hk⟩) (h key)
  once f hf k l v w hk hl hfk hfl := by
    have hdouble : ∀ v w, (.text f.dashed, v) ∈ es → (.text f.name, w) ∈ es →
        f.dashed = f.name := fun v w hdashed hname =>
      Classical.byContradiction fun hne => h _ (.twice hf hne hdashed hname)
    rcases hfk with rfl | rfl <;> rcases hfl with rfl | rfl
    · rfl
    · exact hdouble v w hk hl
    · exact (hdouble w v hl hk).symm
    · rfl

/-! ## Complaints -/

def Complaint.below (way : List String) (c : Complaint) : Complaint :=
  ⟨way ++ c.location, c.message⟩

def Kind.complaints (kind : Kind) (es : Entries) : List Complaint :=
  match kind with
  | .definition => (Conversion.definition (.record es)).complaints
  | .dockerCompose => (Conversion.dockerCompose (.record es)).complaints
  | .kubernetes => (Conversion.kubernetes (.record es)).complaints
  | .matrixVariant => (Conversion.matrixVariant (.record es)).complaints
  | .input => (Conversion.input (.record es)).complaints
  | .expected => (Conversion.expected (.record es)).complaints
  | .logs => (Conversion.logs (.record es)).complaints
  | .traces => (Conversion.traces (.record es)).complaints
  | .span => (Conversion.span (.record es)).complaints
  | .metrics => (Conversion.metrics (.record es)).complaints
  | .profiles => (Conversion.profiles (.record es)).complaints
  | .flamebearers => (Conversion.flamebearers (.record es)).complaints
  | .customCheck => (Conversion.customCheck (.record es)).complaints
  | .countRange => (Conversion.countRange (.record es)).complaints

theorem Kind.unknownKeys_subset (kind : Kind) (es : Entries) :
    unknownKeys kind.keys es ⊆ kind.complaints es := by
  have hstrict : ∀ {α : Type} (what : String) (build : Entries → Converted α),
      unknownKeys kind.keys es ⊆ (strict what kind.keys build (.record es)).complaints := by
    intro α what build
    rw [strict, Converted.complaints_withComplaints]
    exact List.subset_append_right _ _
  cases kind <;> exact hstrict _ _

/-- What is wrong with a record in a field is complained about where the field is converted. -/
def Carries {α : Type} (convert : Data → Converted α) (layout : Layout) (kind : Kind) : Prop :=
  ∀ d way es, layout.Holds d way es → ∀ c ∈ kind.complaints es,
    c.below way ∈ (convert d).complaints

section Carries

variable {α : Type} {convert : Data → Converted α} {layout : Layout}

theorem carries_single (h : ∀ es, (convert (.record es)).complaints = kind.complaints es) :
    Carries convert .single kind := by
  intro d way es hholds c hc
  cases hholds
  rw [h]
  exact hc

theorem Carries.optional (h : Carries convert layout kind) :
    Carries (optional convert) layout kind := by
  intro d way es hholds c hc
  have hgiven : (Conversion.optional convert d).complaints = (convert d).complaints := by
    cases hholds with
    | single es => exact Converted.complaints_map some (convert (.record es))
    | item hitems _ =>
      cases d with
      | null => cases hitems
      | _ => exact Converted.complaints_map some (convert _)
  rw [hgiven]
  exact h d way es hholds c hc

theorem Carries.listOf (h : Carries convert .single kind) :
    Carries (listOf convert) .list kind := by
  intro d way es hholds c hc
  cases hholds with
  | @item _ items i _ hitems hitem =>
    have hinner := h _ _ _ (.single es) c hc
    rw [Conversion.listOf, hitems]
    simp only [Converted.complaints_allOf, List.mem_flatMap]
    refine ⟨_, List.mem_mapIdx.mpr ⟨i, (List.getElem?_eq_some_iff.mp hitem).1, rfl⟩, ?_⟩
    rw [Converted.complaints_under, (List.getElem?_eq_some_iff.mp hitem).2]
    exact List.mem_map_of_mem hinner

theorem Carries.field {key : FieldKey} {written : String} {d : Data} {way : List String}
    {between : Entries} {c : Complaint} (h : Carries convert layout kind) (absent : α)
    (hwritten : writtenKey? key es = some written) (hgiven : lookup? written es = some d)
    (hholds : layout.Holds d way between) (hc : c ∈ kind.complaints between) :
    c.below (written :: way) ∈ (field es key absent convert).complaints := by
  simp only [Conversion.field, hwritten, hgiven, Converted.complaints_under]
  exact List.mem_map_of_mem (h d way between hholds c hc)

end Carries

theorem subset_of_build {α : Type} {what : String} {keys : List FieldKey}
    {build : Entries → Converted α} {cs : List Complaint} (h : cs ⊆ (build es).complaints) :
    cs ⊆ (strict what keys build (.record es)).complaints := by
  rw [strict, Converted.complaints_withComplaints]
  exact List.subset_append_of_subset_left _ h

/-- Every field that holds records passes on the complaints about them. -/
theorem slot_complaints (es : Entries) {slot : Slot} (h : slot ∈ kind.slots) :
    ∃ (α : Type) (absent : α) (convert : Data → Converted α),
      Carries convert slot.layout slot.kind ∧
        (field es slot.key absent convert).complaints ⊆ kind.complaints es := by
  cases kind with
  | definition =>
    simp only [Kind.slots, List.mem_cons, List.not_mem_nil, or_false] at h
    rcases h with rfl | rfl | rfl | rfl | rfl
    · refine ⟨_, none, optional dockerCompose, (carries_single fun _ => rfl).optional, ?_⟩
      exact subset_of_build fun c hc => by simp [hc]
    · refine ⟨_, none, optional kubernetes, (carries_single fun _ => rfl).optional, ?_⟩
      exact subset_of_build fun c hc => by simp [hc]
    · refine ⟨_, [], listOf matrixVariant, (carries_single fun _ => rfl).listOf, ?_⟩
      exact subset_of_build fun c hc => by simp [hc]
    · refine ⟨_, [], listOf input, (carries_single fun _ => rfl).listOf, ?_⟩
      exact subset_of_build fun c hc => by simp [hc]
    · refine ⟨_, {}, expected, carries_single fun _ => rfl, ?_⟩
      exact subset_of_build fun c hc => by simp [hc]
  | matrixVariant =>
    simp only [Kind.slots, List.mem_cons, List.not_mem_nil, or_false] at h
    rcases h with rfl | rfl
    · refine ⟨_, none, optional dockerCompose, (carries_single fun _ => rfl).optional, ?_⟩
      exact subset_of_build fun c hc => by simp [hc]
    · refine ⟨_, none, optional kubernetes, (carries_single fun _ => rfl).optional, ?_⟩
      exact subset_of_build fun c hc => by simp [hc]
  | expected =>
    simp only [Kind.slots, List.mem_cons, List.not_mem_nil, or_false] at h
    rcases h with rfl | rfl | rfl | rfl | rfl
    · refine ⟨_, [], listOf logs, (carries_single fun _ => rfl).listOf, ?_⟩
      exact subset_of_build fun c hc => by simp [hc]
    · refine ⟨_, [], listOf traces, (carries_single fun _ => rfl).listOf, ?_⟩
      exact subset_of_build fun c hc => by simp [hc]
    · refine ⟨_, [], listOf metrics, (carries_single fun _ => rfl).listOf, ?_⟩
      exact subset_of_build fun c hc => by simp [hc]
    · refine ⟨_, [], listOf profiles, (carries_single fun _ => rfl).listOf, ?_⟩
      exact subset_of_build fun c hc => by simp [hc]
    · refine ⟨_, [], listOf customCheck, (carries_single fun _ => rfl).listOf, ?_⟩
      exact subset_of_build fun c hc => by simp [hc]
  | logs =>
    simp only [Kind.slots, List.mem_cons, List.not_mem_nil, or_false] at h
    rcases h with rfl
    · refine ⟨_, none, optional countRange, (carries_single fun _ => rfl).optional, ?_⟩
      exact subset_of_build fun c hc => by simp [signalFields, hc]
  | traces =>
    simp only [Kind.slots, List.mem_cons, List.not_mem_nil, or_false] at h
    rcases h with rfl | rfl
    · refine ⟨_, none, optional countRange, (carries_single fun _ => rfl).optional, ?_⟩
      exact subset_of_build fun c hc => by simp [signalFields, hc]
    · refine ⟨_, none, optional (listOf span), (carries_single fun _ => rfl).listOf.optional, ?_⟩
      exact subset_of_build fun c hc => by simp [signalFields, hc]
  | profiles =>
    simp only [Kind.slots, List.mem_cons, List.not_mem_nil, or_false] at h
    rcases h with rfl
    · refine ⟨_, {}, flamebearers, carries_single fun _ => rfl, ?_⟩
      exact subset_of_build fun c hc => by simp [hc]
  | _ => exact absurd h List.not_mem_nil

/-- What is wrong with a record inside another one is complained about with the way to it. -/
theorem Reaches.complaints {place : List String} (h : Reaches kind es place inner deep) :
    ∀ c ∈ inner.complaints deep, c.below place ∈ kind.complaints es := by
  induction h with
  | refl kind es => exact fun c hc => hc
  | @step kind inner es between deep slot written d way place hslot hwritten hgiven hholds _ ih =>
    intro c hc
    obtain ⟨α, absent, convert, hcarries, hsubset⟩ := slot_complaints es hslot
    have hfield := hcarries.field absent hwritten hgiven hholds (ih c hc)
    rw [Complaint.below, Complaint.below, List.cons_append, ← List.append_assoc,
      ← List.cons_append] at hfield
    exact hsubset hfield

/-- A definition is only accepted if in every record that it is made of, at any depth, every key
belongs to one field of the record and no field is given under two keys.  A key that does not belong
is complained about at the place where it stands. -/
theorem definition_strict (es : Entries) :
    (∀ x, definition (.record es) = .ok x →
      ∀ place inner deep, Reaches .definition es place inner deep → Declared inner deep) ∧
    ∀ place inner deep key, Reaches .definition es place inner deep → Stray inner deep key →
      ∃ cs, definition (.record es) = .failed cs ∧
        ⟨place ++ [key.placeText], strayMessage key⟩ ∈ cs := by
  have hstray : ∀ place inner deep key, Reaches .definition es place inner deep →
      Stray inner deep key → ∃ cs, definition (.record es) = .failed cs ∧
        ⟨place ++ [key.placeText], strayMessage key⟩ ∈ cs := by
    intro place inner deep key hreaches hkey
    have hmem := hreaches.complaints _ (inner.unknownKeys_subset deep hkey.mem_unknownKeys)
    exact ⟨_, Converted.eq_failed_of_mem hmem, hmem⟩
  refine ⟨fun x hx place inner deep hreaches => declared_of_not_stray fun key hkey => ?_, hstray⟩
  obtain ⟨cs, hfailed, -⟩ := hstray place inner deep key hreaches hkey
  rw [hx] at hfailed
  cases hfailed

def variants (nameKey : String) : Entries :=
  [(.text "matrix", .list [.record [], .record [(.text nameKey, .text "wide")]])]

theorem variants_reaches (nameKey : String) :
    Reaches .definition (variants nameKey) ["matrix", "1"] .matrixVariant
      [(.text nameKey, .text "wide")] := by
  have hslot : ⟨plain "matrix", .list, .matrixVariant⟩ ∈ Kind.slots .definition := by
    simp [Kind.slots]
  have hholds : Layout.Holds .list (.list [.record [], .record [(.text nameKey, .text "wide")]])
      ["1"] [(.text nameKey, .text "wide")] := .item (i := 1) rfl rfl
  exact .step hslot rfl rfl hholds (.refl _ _)

/-- A variant with a name is accepted, and a slip in the key of the name is pointed out. -/
theorem variants_strict :
    (∃ x, definition (.record (variants "name")) = .ok x) ∧
      Declared .matrixVariant [(.text "name", .text "wide")] ∧
      ∃ cs, definition (.record (variants "nmae")) = .failed cs ∧
        ⟨["matrix", "1", "nmae"], "Extra inputs are not permitted"⟩ ∈ cs := by
  have hok : ∃ x, definition (.record (variants "name")) = .ok x := ⟨_, rfl⟩
  obtain ⟨x, hx⟩ := hok
  have hstray : Stray .matrixVariant [(.text "nmae", .text "wide")] (.text "nmae") :=
    .unknown List.mem_cons_self fun f hf hk => by
      revert f
      unfold FieldKey.IsAddressedBy
      decide
  exact ⟨⟨x, hx⟩, (definition_strict _).1 x hx _ _ _ (variants_reaches "name"),
    (definition_strict _).2 _ _ _ _ (variants_reaches "nmae") hstray⟩

end Conversion
end TelemetryCheck
