import Mathlib.Data.List.Nodup
import TelemetryCheck.Proofs.Json.Fields
import TelemetryCheck.Proofs.Json.Strings
import TelemetryCheck.Proofs.Text.Digits

/-!
# Reading what was written

A value without doubles, whose objects have each key once, is read back from its text, at any depth
of nesting that the reader goes along with.
-/

namespace TelemetryCheck
namespace Json

variable {c : Char} {cs rest : List Char}

/-! ## Numbers -/

theorem isAsciiDigit_eq (c : Char) : isAsciiDigit c = c.isDigit := by
  simp only [isAsciiDigit, Char.isDigit]
  rfl

theorem exists_toDigits_eq_cons (n : Nat) :
    ∃ c cs, Nat.toDigits 10 n = c :: cs ∧ c.isDigit = true := by
  obtain ⟨c, cs, hcs⟩ := List.exists_cons_of_ne_nil (Nat.toDigits_ne_nil (n := n) (b := 10))
  have hc : c ∈ Nat.toDigits 10 n := hcs ▸ List.mem_cons_self
  exact ⟨c, cs, hcs, Nat.isDigit_of_mem_toDigits (by decide) (by decide) hc⟩

def EndsNumber (rest : List Char) : Prop :=
  ∀ c ∈ rest.head?, isAsciiDigit c = false ∧ c ≠ '.' ∧ c ≠ 'e' ∧ c ≠ 'E'

theorem endsNumber_nil : EndsNumber [] := fun _ h => nomatch h

theorem head?_toDigits {n : Nat} (h : n ≠ 0) : (Nat.toDigits 10 n).head? ≠ some '0' := by
  induction n using Nat.strongRecOn with
  | ind n ih =>
    by_cases hn : n < 10
    · simpa [Nat.toDigits_of_lt_base hn] using h
    · rw [Nat.toDigits_of_base_le (by decide) (Nat.le_of_not_lt hn),
        List.head?_append_of_ne_nil _ Nat.toDigits_ne_nil]
      exact ih (n / 10) (by omega) (by omega)

theorem number?_toDigits {n : Nat} (negative : Bool)
    (hlength : (Nat.toDigits 10 n).length ≤ Decimal.maxIntegerDigits) (hrest : EndsNumber rest) :
    number? negative (Nat.toDigits 10 n ++ rest) =
      some (.int (if negative then -n else n), rest) := by
  have hdigits : ∀ c ∈ Nat.toDigits 10 n, isAsciiDigit c = true := fun c hc => by
    rw [isAsciiDigit_eq]
    exact Nat.isDigit_of_mem_toDigits (by decide) (by decide) hc
  have hstop : rest.takeWhile isAsciiDigit = [] ∧ rest.dropWhile isAsciiDigit = rest := by
    cases rest with
    | nil => exact ⟨rfl, rfl⟩
    | cons c rest => simp [(hrest c rfl).1]
  have hzero : ¬((Nat.toDigits 10 n).head? = some '0' ∧ (Nat.toDigits 10 n).length ≠ 1) := by
    rintro ⟨hhead, hlong⟩
    by_cases hn : n = 0
    · subst hn
      exact hlong rfl
    · exact head?_toDigits hn hhead
  have htake : (Nat.toDigits 10 n ++ rest).takeWhile isAsciiDigit = Nat.toDigits 10 n := by
    rw [List.takeWhile_append_of_pos hdigits, hstop.1, List.append_nil]
  have hdrop : (Nat.toDigits 10 n ++ rest).dropWhile isAsciiDigit = rest := by
    rw [List.dropWhile_append_of_pos hdigits, hstop.2]
  have hwhole : ((Nat.toDigits 10 n).isEmpty || (Nat.toDigits 10 n).head? = some '0' &&
      (Nat.toDigits 10 n).length ≠ 1) = false := by
    simpa [Nat.toDigits_ne_nil] using hzero
  unfold number?
  simp only [htake, hdrop, hwhole]
  cases rest with
  | nil => simp [Text.digitsValue_toDigits, Nat.not_lt.mpr hlength]
  | cons c rest =>
    obtain ⟨-, hpoint, he, hE⟩ := hrest c rfl
    simp [hpoint, he, hE, Text.digitsValue_toDigits, Nat.not_lt.mpr hlength]

/-! ## Values that are read back -/

mutual

/-- How deep containers that are not empty are nested in a value. -/
def nesting : Value → Nat
  | .arr items => nestingOfItems items
  | .obj fields => nestingOfFields fields
  | _ => 0

def nestingOfItems : List Value → Nat
  | [] => 0
  | v :: rest => max (nesting v + 1) (nestingOfItems rest)

def nestingOfFields : List (String × Value) → Nat
  | [] => 0
  | (_, v) :: rest => max (nesting v + 1) (nestingOfFields rest)

end

theorem nesting_lt_of_mem {v : Value} {items : List Value} (h : v ∈ items) :
    nesting v < nesting (.arr items) := by
  rw [nesting]
  induction items with
  | nil => exact absurd h List.not_mem_nil
  | cons w rest ih =>
    rw [nestingOfItems]
    rcases List.mem_cons.mp h with rfl | hrest
    · omega
    · have := ih hrest
      omega

theorem nesting_lt_of_mem_fields {p : String × Value} {fields : List (String × Value)}
    (h : p ∈ fields) : nesting p.2 < nesting (.obj fields) := by
  rw [nesting]
  induction fields with
  | nil => exact absurd h List.not_mem_nil
  | cons w rest ih =>
    rw [nestingOfFields]
    rcases List.mem_cons.mp h with rfl | hrest
    · omega
    · have := ih hrest
      omega

/-- A value without doubles, with integers that can be read, whose objects have each key once. -/
inductive Exact : Value → Prop
  | null : Exact .null
  | bool (b : Bool) : Exact (.bool b)
  | int {i : Int} : (Nat.toDigits 10 i.natAbs).length ≤ Decimal.maxIntegerDigits → Exact (.int i)
  | str (s : String) : Exact (.str s)
  | arr {items : List Value} : (∀ v ∈ items, Exact v) → Exact (.arr items)
  | obj {fields : List (String × Value)} :
      (fields.map (·.1)).Nodup → (∀ p ∈ fields, Exact p.2) → Exact (.obj fields)

/-! ## What a text begins with -/

def Opens (c : Char) : Prop := c ∉ [' ', '\n', '\r', '\t', ']', '\x7d']

instance : DecidablePred Opens := fun c =>
  inferInstanceAs (Decidable (c ∉ [' ', '\n', '\r', '\t', ']', '\x7d']))

theorem skipBlanks_of_opens (h : Opens c) (cs : List Char) : skipBlanks (c :: cs) = c :: cs := by
  simp only [Opens, List.mem_cons, List.not_mem_nil, or_false, not_or] at h
  simp [skipBlanks, h]

theorem comma_opens : Opens ',' := by decide

theorem opens_of_isDigit (h : c.isDigit = true) : Opens c := by
  intro hmem
  simp only [List.mem_cons, List.not_mem_nil, or_false] at hmem
  rcases hmem with rfl | rfl | rfl | rfl | rfl | rfl
  all_goals exact absurd h (by decide)

variable {limit depth fuel : Nat}

def OpensText (text : List Char) : Prop := ∃ c cs, text = c :: cs ∧ Opens c

theorem OpensText.append {text : List Char} (h : OpensText text) (rest : List Char) :
    OpensText (text ++ rest) := by
  obtain ⟨c, cs, rfl, hc⟩ := h
  exact ⟨c, cs ++ rest, rfl, hc⟩

theorem readValue_array {text : List Char} (h : OpensText text) (hdepth : depth < limit) :
    readValue limit (fuel + 1) depth ('[' :: text) =
      (readItems limit fuel (depth + 1) text).map fun p => (.arr p.1, p.2) := by
  obtain ⟨c, cs, rfl, hc⟩ := h
  rw [readValue, skipBlanks_of_opens (by decide)]
  simp only [skipBlanks_of_opens hc]
  split
  · rename_i heq
    cases heq
    exact absurd hc (by decide)
  · rw [if_neg (Nat.not_le.mpr hdepth)]

theorem readValue_object {text : List Char} (h : OpensText text) (hdepth : depth < limit) :
    readValue limit (fuel + 1) depth ('\x7b' :: text) =
      (readFields limit fuel (depth + 1) [] text).map fun p => (.obj p.1, p.2) := by
  obtain ⟨c, cs, rfl, hc⟩ := h
  rw [readValue, skipBlanks_of_opens (by decide)]
  simp only [skipBlanks_of_opens hc]
  split
  · rename_i heq
    cases heq
    exact absurd hc (by decide)
  · rw [if_neg (Nat.not_le.mpr hdepth)]

theorem readValue_digit (hc : c.isDigit = true) (cs : List Char) :
    readValue limit (fuel + 1) depth (c :: cs) = number? false (c :: cs) := by
  rw [readValue, skipBlanks_of_opens (opens_of_isDigit hc)]
  split
  case h_11 => rfl
  all_goals
    rename_i heq
    cases heq
    exact absurd hc (by decide)

theorem readValue_negative (hc : c.isDigit = true) (cs : List Char) :
    readValue limit (fuel + 1) depth ('-' :: c :: cs) = number? true (c :: cs) := by
  rw [readValue, skipBlanks_of_opens (by decide)]
  split
  case h_6 =>
    rename_i heq
    cases heq
    exact absurd hc (by decide)
  case h_7 =>
    rename_i heq
    cases heq
    rfl
  case h_11 =>
    rename_i hminus _ _ _
    exact absurd rfl (hminus _)
  all_goals
    rename_i heq
    cases heq

/-! ## Texts of containers -/

theorem toList_compact_arr (items : List Value) :
    (compact (.arr items)).toList = '[' :: ((compactItems items).toList ++ [']']) := by
  simp [compact]

theorem toList_compact_obj (fields : List (String × Value)) :
    (compact (.obj fields)).toList = '\x7b' :: ((compactFields fields).toList ++ ['\x7d']) := by
  simp [compact]

theorem toList_compact_int (i : Int) :
    (compact (.int i)).toList = (if i < 0 then ['-'] else []) ++ Nat.toDigits 10 i.natAbs := by
  by_cases h : i < 0 <;> simp [compact, Decimal.intText, Decimal.signText, Decimal.natText, h]

theorem toList_compactItems_cons (v w : Value) (rest : List Value) :
    (compactItems (v :: w :: rest)).toList =
      (compact v).toList ++ ',' :: (compactItems (w :: rest)).toList := by
  simp [compactItems]

/-- A field of an object, with what separates it from its value. -/
theorem toList_compactFields_cons (key : String) (v : Value) (p : String × Value)
    (rest : List (String × Value)) :
    (compactFields ((key, v) :: p :: rest)).toList =
      (stringText key).toList ++ ':' :: ((compact v).toList ++
        ',' :: (compactFields (p :: rest)).toList) := by
  simp [compactFields]

theorem opensText_stringText (s : String) : OpensText (stringText s).toList := by
  obtain ⟨inner, htext, -⟩ := stringRest_stringText s []
  rw [List.append_nil] at htext
  exact ⟨_, _, htext, by decide⟩

/-- The text of a value does not begin with a blank or with the end of a container. -/
theorem Exact.opensText {v : Value} (h : Exact v) : OpensText (compact v).toList := by
  cases h with
  | null => exact ⟨_, _, rfl, by decide⟩
  | bool b => cases b <;> exact ⟨_, _, rfl, by decide⟩
  | @int i _ =>
    rw [toList_compact_int]
    split
    · exact ⟨_, _, rfl, by decide⟩
    · obtain ⟨c, cs, hcs, hc⟩ := exists_toDigits_eq_cons i.natAbs
      exact ⟨c, cs, hcs, opens_of_isDigit hc⟩
  | str s =>
    rw [compact]
    exact opensText_stringText s
  | arr _ => exact ⟨_, _, toList_compact_arr _, by decide⟩
  | obj _ _ => exact ⟨_, _, toList_compact_obj _, by decide⟩

theorem opensText_compactItems {v : Value} (h : Exact v) (items : List Value) :
    OpensText (compactItems (v :: items)).toList := by
  cases items with
  | nil => exact h.opensText
  | cons w items =>
    rw [toList_compactItems_cons]
    exact h.opensText.append _

theorem opensText_compactFields (p : String × Value) (fields : List (String × Value)) :
    OpensText (compactFields (p :: fields)).toList := by
  cases fields with
  | nil =>
    rw [compactFields, String.toList_append, String.toList_append, List.append_assoc]
    exact (opensText_stringText p.1).append _
  | cons q fields =>
    rw [toList_compactFields_cons]
    exact (opensText_stringText p.1).append _

/-! ## Reading values back -/

/-- A value is read back from its text at a depth that leaves room for it, whatever follows. -/
def ReadBack (limit : Nat) (v : Value) : Prop :=
  ∀ depth fuel rest, depth + nesting v ≤ limit → 2 * (compact v).toList.length ≤ fuel + 1 →
    EndsNumber rest → readValue limit fuel depth ((compact v).toList ++ rest) = some (v, rest)

theorem endsNumber_cons (h : c ∈ [',', ']', '\x7d']) (cs : List Char) : EndsNumber (c :: cs) := by
  rintro d hd
  cases hd
  simp only [List.mem_cons, List.not_mem_nil, or_false] at h
  rcases h with rfl | rfl | rfl <;> decide

/-- A text takes at least one step to read. -/
theorem Exact.readBack_of_step {v : Value} (h : Exact v)
    (hstep : ∀ depth fuel rest, depth + nesting v ≤ limit →
      2 * (compact v).toList.length ≤ fuel + 2 → EndsNumber rest →
        readValue limit (fuel + 1) depth ((compact v).toList ++ rest) = some (v, rest)) :
    ReadBack limit v := by
  intro depth fuel rest hdepth hfuel hrest
  obtain ⟨c, cs, htext, -⟩ := h.opensText
  cases fuel with
  | zero =>
    rw [htext, List.length_cons] at hfuel
    omega
  | succ fuel => exact hstep depth fuel rest hdepth hfuel hrest

/-- A word is read back from its text. -/
theorem word?_append (word : String) (v : Value) :
    word? word v (word.toList ++ rest) = some (v, rest) := by
  have hfront : word.toList.isPrefixOf (word.toList ++ rest) = true :=
    List.isPrefixOf_iff_prefix.mpr (List.prefix_append _ _)
  rw [word?, if_pos hfront, ← String.length_toList, List.drop_left]

theorem readValue_int {i : Int} (h : (Nat.toDigits 10 i.natAbs).length ≤ Decimal.maxIntegerDigits)
    (hrest : EndsNumber rest) :
    readValue limit (fuel + 1) depth ((compact (.int i)).toList ++ rest) = some (.int i, rest) := by
  obtain ⟨c, cs, hcs, hc⟩ := exists_toDigits_eq_cons i.natAbs
  rw [toList_compact_int]
  by_cases hneg : i < 0
  · rw [if_pos hneg, List.append_assoc, List.singleton_append, hcs, List.cons_append,
      readValue_negative hc, ← List.cons_append, ← hcs, number?_toDigits true h hrest, if_pos rfl,
      Int.ofNat_natAbs_of_nonpos (Int.le_of_lt hneg), Int.neg_neg]
  · rw [if_neg hneg, List.nil_append, hcs, List.cons_append, readValue_digit hc,
      ← List.cons_append, ← hcs, number?_toDigits false h hrest, if_neg (by decide),
      Int.natAbs_of_nonneg (Int.not_lt.mp hneg)]

theorem readValue_str (s : String) :
    readValue limit (fuel + 1) depth ((compact (.str s)).toList ++ rest) =
      some (.str s, rest) := by
  obtain ⟨inner, htext, hread⟩ := stringRest_stringText s rest
  rw [compact, htext, readValue, skipBlanks_of_opens (by decide)]
  simp only [hread, Option.map_some]

/-- Items are read back up to the end of their array. -/
theorem readItems_compactItems {items : List Value} (hne : items ≠ [])
    (hread : ∀ v ∈ items, ReadBack limit v) (hdepth : ∀ v ∈ items, depth + nesting v ≤ limit)
    (hfuel : 2 * (compactItems items).toList.length < fuel) :
    readItems limit fuel depth ((compactItems items).toList ++ ']' :: rest) =
      some (items, rest) := by
  induction items generalizing fuel with
  | nil => exact absurd rfl hne
  | cons v items ih =>
    obtain ⟨fuel, rfl⟩ := Nat.exists_eq_succ_of_ne_zero (Nat.ne_zero_of_lt hfuel)
    have hv : ReadBack limit v := hread v List.mem_cons_self
    have hroom := hdepth v List.mem_cons_self
    cases items with
    | nil =>
      rw [compactItems] at hfuel ⊢
      rw [readItems, hv _ _ _ hroom (by omega) (endsNumber_cons (by decide) rest)]
      rfl
    | cons w items =>
      rw [toList_compactItems_cons, List.length_append, List.length_cons] at hfuel
      have hmore : readItems limit fuel depth ((compactItems (w :: items)).toList ++ ']' :: rest) =
          some (w :: items, rest) :=
        ih (List.cons_ne_nil _ _) (fun u hu => hread u (List.mem_cons_of_mem v hu))
          (fun u hu => hdepth u (List.mem_cons_of_mem v hu)) (by omega)
      rw [toList_compactItems_cons, List.append_assoc, List.cons_append, readItems,
        hv _ _ _ hroom (by omega) (endsNumber_cons (by decide) _)]
      simp only [skipBlanks_of_opens comma_opens, hmore, Option.map_some]

/-- A field is read back, and what stands behind its value tells whether another one follows. -/
theorem readFields_field {done : List (String × Value)} {key : String} {v : Value}
    (hnew : key ∉ done.map (·.1)) (hc : c ∈ [',', '\x7d'])
    (hv : readValue limit fuel depth ((compact v).toList ++ c :: rest) = some (v, c :: rest)) :
    readFields limit (fuel + 1) depth done
        ((stringText key).toList ++ ':' :: ((compact v).toList ++ c :: rest)) =
      if c = ',' then readFields limit fuel depth (done ++ [(key, v)]) rest
      else some (done ++ [(key, v)], rest) := by
  obtain ⟨inner, htext, hkey⟩ :=
    stringRest_stringText key (':' :: ((compact v).toList ++ c :: rest))
  rw [htext, readFields, skipBlanks_of_opens (by decide)]
  simp only [hkey, skipBlanks_of_opens (show Opens ':' by decide), hv, setField_of_not_mem hnew]
  simp only [List.mem_cons, List.not_mem_nil, or_false] at hc
  rcases hc with rfl | rfl <;> rfl

/-- Fields are read back behind those that were read before, up to the end of their object. -/
theorem readFields_compactFields {done fields : List (String × Value)} (hne : fields ≠ [])
    (honce : ((done ++ fields).map (·.1)).Nodup) (hread : ∀ p ∈ fields, ReadBack limit p.2)
    (hdepth : ∀ p ∈ fields, depth + nesting p.2 ≤ limit)
    (hfuel : 2 * (compactFields fields).toList.length < fuel) :
    readFields limit fuel depth done ((compactFields fields).toList ++ '\x7d' :: rest) =
      some (done ++ fields, rest) := by
  induction fields generalizing fuel done with
  | nil => exact absurd rfl hne
  | cons p fields ih =>
    obtain ⟨key, v⟩ := p
    obtain ⟨fuel, rfl⟩ := Nat.exists_eq_succ_of_ne_zero (Nat.ne_zero_of_lt hfuel)
    have hv : ReadBack limit v := hread (key, v) List.mem_cons_self
    have hroom : depth + nesting v ≤ limit := hdepth (key, v) List.mem_cons_self
    have hnew : key ∉ done.map (·.1) := by
      rw [List.map_append, List.nodup_append] at honce
      exact fun hmem => honce.2.2 key hmem key List.mem_cons_self rfl
    cases fields with
    | nil =>
      simp only [compactFields, String.toList_append, List.length_append] at hfuel
      simp only [compactFields, String.toList_append, List.append_assoc]
      exact readFields_field hnew (by decide)
        (hv _ _ _ hroom (by omega) (endsNumber_cons (by decide) rest))
    | cons w fields =>
      simp only [toList_compactFields_cons, List.length_append, List.length_cons] at hfuel
      have hmore : readFields limit fuel depth (done ++ [(key, v)])
          ((compactFields (w :: fields)).toList ++ '\x7d' :: rest) =
          some (done ++ [(key, v)] ++ w :: fields, rest) :=
        ih (List.cons_ne_nil _ _) (by simpa using honce)
          (fun q hq => hread q (List.mem_cons_of_mem _ hq))
          (fun q hq => hdepth q (List.mem_cons_of_mem _ hq)) (by omega)
      simp only [toList_compactFields_cons, List.append_assoc, List.cons_append]
      rw [readFields_field hnew (by decide)
        (hv _ _ _ hroom (by omega) (endsNumber_cons (by decide) _)), if_pos rfl, hmore,
        List.append_assoc, List.singleton_append]

theorem readValue_compact_arr {items : List Value} (hitems : ∀ v ∈ items, Exact v)
    (hread : ∀ v ∈ items, ReadBack limit v) (hdepth : depth + nesting (.arr items) ≤ limit)
    (hfuel : 2 * (compact (.arr items)).toList.length ≤ fuel + 2) :
    readValue limit (fuel + 1) depth ((compact (.arr items)).toList ++ rest) =
      some (.arr items, rest) := by
  cases items with
  | nil => rfl
  | cons v items =>
    have hinner : ∀ w ∈ v :: items, depth + 1 + nesting w ≤ limit := fun w hw => by
      have := nesting_lt_of_mem hw
      omega
    have hroom := hinner v List.mem_cons_self
    rw [toList_compact_arr, List.length_cons, List.length_append, List.length_singleton] at hfuel
    rw [toList_compact_arr, List.cons_append, List.append_assoc, List.singleton_append,
      readValue_array ((opensText_compactItems (hitems v List.mem_cons_self) items).append _)
        (by omega),
      readItems_compactItems (List.cons_ne_nil v items) hread hinner (by omega), Option.map_some]

theorem readValue_compact_obj {fields : List (String × Value)} (honce : (fields.map (·.1)).Nodup)
    (hread : ∀ p ∈ fields, ReadBack limit p.2) (hdepth : depth + nesting (.obj fields) ≤ limit)
    (hfuel : 2 * (compact (.obj fields)).toList.length ≤ fuel + 2) :
    readValue limit (fuel + 1) depth ((compact (.obj fields)).toList ++ rest) =
      some (.obj fields, rest) := by
  cases fields with
  | nil => rfl
  | cons p fields =>
    have hinner : ∀ q ∈ p :: fields, depth + 1 + nesting q.2 ≤ limit := fun q hq => by
      have := nesting_lt_of_mem_fields hq
      omega
    have hroom := hinner p List.mem_cons_self
    rw [toList_compact_obj, List.length_cons, List.length_append, List.length_singleton] at hfuel
    rw [toList_compact_obj, List.cons_append, List.append_assoc, List.singleton_append,
      readValue_object ((opensText_compactFields p fields).append _) (by omega),
      readFields_compactFields (List.cons_ne_nil p fields) honce hread hinner (by omega),
      Option.map_some, List.nil_append]

/-- An exact value is read back from its text. -/
theorem Exact.readBack {v : Value} (h : Exact v) : ReadBack limit v := by
  induction h with
  | null => exact Exact.null.readBack_of_step fun _ _ _ _ _ _ => word?_append "null" .null
  | bool b =>
    refine (Exact.bool b).readBack_of_step fun _ _ _ _ _ _ => ?_
    cases b
    · exact word?_append "false" (.bool false)
    · exact word?_append "true" (.bool true)
  | int hlength =>
    exact (Exact.int hlength).readBack_of_step fun _ _ _ _ _ hrest => readValue_int hlength hrest
  | str s => exact (Exact.str s).readBack_of_step fun _ _ _ _ _ _ => readValue_str s
  | arr hitems ih =>
    exact (Exact.arr hitems).readBack_of_step fun _ _ _ hdepth hfuel _ =>
      readValue_compact_arr hitems ih hdepth hfuel
  | obj honce hfields ih =>
    exact (Exact.obj honce hfields).readBack_of_step fun _ _ _ hdepth hfuel _ =>
      readValue_compact_obj honce ih hdepth hfuel

/-- The whole text of an exact value is read as that value, by any reader that goes along with its
nesting. -/
theorem readWithin_compact {v : Value} (h : Exact v) (hlimit : nesting v ≤ limit) :
    readWithin limit (compact v).toList = some v := by
  have hread : readValue limit (2 * (compact v).toList.length + 2) 0 ((compact v).toList ++ []) =
      some (v, []) := h.readBack _ _ _ (by omega) (by omega) endsNumber_nil
  rw [List.append_nil] at hread
  rw [readWithin, hread]
  rfl

end Json
end TelemetryCheck
