import TelemetryCheck.Duration
import TelemetryCheck.Proofs.Text.Digits

/-!
# The grammar of durations

A duration is written as parts one after the other, each a decimal number and the name of a unit.
Reading looks for parts anywhere in the text, takes as many digits as it can and prefers the longer
of two names; what does not start where the part before it ended ends the sum.  It reads what the
grammar allows nevertheless: a part starts with a digit and no name contains one, so a text has one
decomposition at most, and the shorter name is right only where nothing could make it longer.
-/

namespace TelemetryCheck
namespace Duration

/-- The names of a unit.  A millionth of a second has two. -/
def Unit.names : Unit → List (List Char)
  | .nano => [['n', 's']]
  | .micro => [['u', 's'], ['µ', 's']]
  | .milli => [['m', 's']]
  | .second => [['s']]
  | .minute => [['m']]
  | .hour => [['h']]

def Part.decimals (p : Part) : List Char := if p.fraction = [] then [] else '.' :: p.fraction

def Part.numeral (p : Part) : List Char := p.whole ++ p.decimals

structure Part.WrittenAs (p : Part) (cs : List Char) : Prop where
  nonempty : p.whole ≠ []
  whole : ∀ c ∈ p.whole, Text.isDigit c = true
  fraction : ∀ c ∈ p.fraction, Text.isDigit c = true
  text : ∃ name ∈ p.unit.names, cs = p.numeral ++ name

/-- Parts, with a way to write each of them, that make up a text together. -/
structure Spells (pieces : List (Part × List Char)) (cs : List Char) : Prop where
  written : ∀ x ∈ pieces, x.1.WrittenAs x.2
  text : pieces.flatMap Prod.snd = cs

/-- One part or more that make up what stands between the blanks around a text. -/
def Decomposes (pieces : List (Part × List Char)) (text : String) : Prop :=
  pieces ≠ [] ∧ Spells pieces (Text.trim text.toList)

def refusal (text : String) : String :=
  if (Text.trim text.toList).isEmpty then "empty duration"
  else "invalid duration " ++ Text.quoted text ++ ", expected e.g. '100ms', '2s' or '1m30s'"

/-- What parts add up to, from the left and on top of what there is. -/
def sumOf (sum : Float) (pieces : List (Part × List Char)) : Float :=
  pieces.foldl (fun sum x => sum + x.1.number * x.1.unit.seconds) sum

variable {p : Part} {cs u rest : List Char} {pieces : List (Part × List Char)}

/-! ## Units -/

theorem takeUnit?_name {unit : Unit} {name : List Char} (hname : name ∈ unit.names)
    (hrest : ∀ c ∈ rest.head?, Text.isDigit c = true) :
    takeUnit? (name ++ rest) = some (unit, rest) := by
  cases unit with
  | minute =>
    cases List.mem_singleton.mp hname
    -- only a minute could be made longer, and no part starts with the letter that would do it
    cases rest with
    | nil => rfl
    | cons c more =>
      have hc : c ≠ 's' := by
        rintro rfl
        exact absurd (hrest 's' rfl) (by decide)
      unfold takeUnit?
      split <;> simp_all
  | micro =>
    simp only [Unit.names, List.mem_cons, List.not_mem_nil, or_false] at hname
    rcases hname with rfl | rfl <;> rfl
  | _ =>
    cases List.mem_singleton.mp hname
    rfl

theorem takeUnit?_eq_some {unit : Unit} (h : takeUnit? cs = some (unit, rest)) :
    ∃ name ∈ unit.names, cs = name ++ rest := by
  unfold takeUnit? at h
  split at h <;> cases h
  all_goals simp [Unit.names]

/-- A name starts with a letter, whatever follows it. -/
theorem Unit.head_of_mem_names {unit : Unit} {name : List Char} (h : name ∈ unit.names) :
    ∀ c ∈ (name ++ rest).head?, Text.isDigit c = false ∧ c ≠ '.' := by
  have hall : (unit.names.all fun name =>
      name.head?.any fun c => !Text.isDigit c && c != '.') = true := by
    cases unit <;> decide
  have hhead := List.all_eq_true.mp hall name h
  cases name with
  | nil => cases hhead
  | cons c more =>
    rintro d hd
    cases hd
    simpa using hhead

theorem Unit.isBlank_of_mem_name {unit : Unit} {name : List Char} (h : name ∈ unit.names) {c : Char}
    (hc : c ∈ name) : Text.isBlank c = false := by
  have hall : (unit.names.all fun name => name.all fun c => !Text.isBlank c) = true := by
    cases unit <;> decide
  simpa using List.all_eq_true.mp (List.all_eq_true.mp hall name h) c hc

/-! ## Numbers -/

section Digits

variable {α : Type} {next : List Char → Option α} {found : α} {digits : List Char}

/-- No digit is given back if what follows the digits can be taken. -/
theorem takeDigits?_append (hdigits : ∀ c ∈ digits, Text.isDigit c = true) (hne : digits ≠ [])
    (hrest : ∀ c ∈ rest.head?, Text.isDigit c = false) (hnext : next rest = some found) :
    takeDigits? next (digits ++ rest) = some (digits, found) := by
  induction digits with
  | nil => exact absurd rfl hne
  | cons c digits ih =>
    have hc : Text.isDigit c = true := hdigits c List.mem_cons_self
    cases digits with
    | nil =>
      have hstop : takeDigits? next rest = none := by
        cases rest with
        | nil => rfl
        | cons d more => simp [takeDigits?, hrest d rfl]
      simp [takeDigits?, hc, hstop, hnext]
    | cons d digits =>
      have hmore : ∀ e ∈ d :: digits, Text.isDigit e = true := fun e he =>
        hdigits e (List.mem_cons_of_mem c he)
      have htail := ih hmore (List.cons_ne_nil d digits)
      rw [List.cons_append, takeDigits?, if_pos hc, htail]

theorem takeDigits?_eq_some (h : takeDigits? next cs = some (digits, found)) :
    digits ≠ [] ∧ (∀ c ∈ digits, Text.isDigit c = true) ∧
      ∃ rest, cs = digits ++ rest ∧ next rest = some found := by
  induction cs generalizing digits with
  | nil => cases h
  | cons c cs ih =>
    unfold takeDigits? at h
    split at h
    case isFalse => cases h
    case isTrue hc =>
      split at h
      · rename_i taken found' htaken
        cases h
        obtain ⟨-, htail, rest, hcs, hrest⟩ := ih htaken
        exact ⟨List.cons_ne_nil c taken, List.forall_mem_cons.mpr ⟨hc, htail⟩, rest,
          by rw [hcs, List.cons_append], hrest⟩
      · obtain ⟨found', hfound, heq⟩ := Option.map_eq_some_iff.mp h
        cases heq
        exact ⟨List.cons_ne_nil c [], List.forall_mem_singleton.mpr hc, cs, rfl, hfound⟩

end Digits

/-! ## Parts -/

theorem takeFraction?_of_no_point (h : ∀ c ∈ cs.head?, c ≠ '.') :
    takeFraction? cs = (takeUnit? cs).map fun found => ([], found) := by
  unfold takeFraction?
  split
  · exact absurd rfl (h '.' rfl)
  · exact Option.none_or

theorem takeFraction?_append {name : List Char} (hname : name ∈ p.unit.names)
    (hfraction : ∀ c ∈ p.fraction, Text.isDigit c = true)
    (hrest : ∀ c ∈ rest.head?, Text.isDigit c = true) :
    takeFraction? (p.decimals ++ (name ++ rest)) = some (p.fraction, p.unit, rest) := by
  have hunit : takeUnit? (name ++ rest) = some (p.unit, rest) := takeUnit?_name hname hrest
  have hhead : ∀ c ∈ (name ++ rest).head?, Text.isDigit c = false ∧ c ≠ '.' :=
    Unit.head_of_mem_names hname
  unfold Part.decimals
  split
  · rename_i hnone
    rw [List.nil_append, takeFraction?_of_no_point fun c hc => (hhead c hc).2, hunit, hnone,
      Option.map_some]
  · rename_i hsome
    simp only [List.cons_append, takeFraction?,
      takeDigits?_append hfraction hsome (fun c hc => (hhead c hc).1) hunit, Option.some_or]

theorem takePart?_append (hp : p.WrittenAs u) (hrest : ∀ c ∈ rest.head?, Text.isDigit c = true) :
    takePart? (u ++ rest) = some (p, rest) := by
  obtain ⟨name, hname, rfl⟩ := hp.text
  have hstop : ∀ c ∈ (p.decimals ++ (name ++ rest)).head?, Text.isDigit c = false := by
    unfold Part.decimals
    split
    · exact fun c hc => (Unit.head_of_mem_names hname c hc).1
    · rintro c hc
      cases hc
      decide
  rw [Part.numeral, List.append_assoc, List.append_assoc, takePart?,
    takeDigits?_append hp.whole hp.nonempty hstop (takeFraction?_append hname hp.fraction hrest)]
  rfl

theorem takePart?_eq_some (h : takePart? cs = some (p, rest)) :
    ∃ u, p.WrittenAs u ∧ cs = u ++ rest := by
  obtain ⟨⟨whole, fraction, unit, after⟩, htake, heq⟩ := Option.map_eq_some_iff.mp h
  cases heq
  obtain ⟨hne, hwhole, tail, rfl, hfraction⟩ := takeDigits?_eq_some htake
  rcases Option.or_eq_some_iff.mp hfraction with hpoint | ⟨-, hpointless⟩
  · split at hpoint
    · obtain ⟨hne', hdigits, tail', rfl, hunit⟩ := takeDigits?_eq_some hpoint
      obtain ⟨name, hname, rfl⟩ := takeUnit?_eq_some hunit
      refine ⟨whole ++ '.' :: fraction ++ name, ⟨hne, hwhole, hdigits, name, hname, ?_⟩, by simp⟩
      simp [Part.numeral, Part.decimals, hne']
    · cases hpoint
  · obtain ⟨⟨unit', after'⟩, hunit, heq⟩ := Option.map_eq_some_iff.mp hpointless
    cases heq
    obtain ⟨name, hname, rfl⟩ := takeUnit?_eq_some hunit
    refine ⟨whole ++ name, ⟨hne, hwhole, by simp, name, hname, ?_⟩, by simp⟩
    simp [Part.numeral, Part.decimals]

theorem Part.WrittenAs.eq_cons (hp : p.WrittenAs u) :
    ∃ c more, u = c :: more ∧ Text.isDigit c = true := by
  obtain ⟨name, -, rfl⟩ := hp.text
  obtain ⟨c, digits, hwhole⟩ := List.exists_cons_of_ne_nil hp.nonempty
  have hc : c ∈ p.whole := by
    rw [hwhole]
    exact List.mem_cons_self
  refine ⟨c, digits ++ p.decimals ++ name, ?_, hp.whole c hc⟩
  rw [Part.numeral, hwhole, List.cons_append, List.cons_append]

theorem Part.WrittenAs.ne_nil (hp : p.WrittenAs u) : u ≠ [] := by
  obtain ⟨c, more, rfl, -⟩ := hp.eq_cons
  exact List.cons_ne_nil c more

theorem Part.WrittenAs.no_blank (hp : p.WrittenAs u) : ∀ c ∈ u, Text.isBlank c = false := by
  obtain ⟨name, hname, rfl⟩ := hp.text
  have hdecimals : ∀ c ∈ p.decimals, Text.isBlank c = false := by
    unfold Part.decimals
    split
    · simp
    · exact List.forall_mem_cons.mpr
        ⟨by decide, fun c hc => Text.isBlank_of_isDigit (hp.fraction c hc)⟩
  intro c hc
  simp only [Part.numeral, List.mem_append] at hc
  rcases hc with (hc | hc) | hc
  · exact Text.isBlank_of_isDigit (hp.whole c hc)
  · exact hdecimals c hc
  · exact Unit.isBlank_of_mem_name hname hc

/-! ## Runs of parts -/

theorem Spells.nil : Spells [] [] := ⟨by simp, rfl⟩

theorem Spells.cons (hp : p.WrittenAs u) (h : Spells pieces rest) :
    Spells ((p, u) :: pieces) (u ++ rest) :=
  ⟨List.forall_mem_cons.mpr ⟨hp, h.written⟩, by rw [List.flatMap_cons, h.text]⟩

theorem Spells.of_cons {x : Part × List Char} (h : Spells (x :: pieces) cs) :
    x.1.WrittenAs x.2 ∧ ∃ rest, Spells pieces rest ∧ cs = x.2 ++ rest :=
  ⟨h.written x List.mem_cons_self, pieces.flatMap Prod.snd,
    ⟨fun y hy => h.written y (List.mem_cons_of_mem x hy), rfl⟩, by rw [← h.text, List.flatMap_cons]⟩

theorem Spells.append {pieces' : List (Part × List Char)} (h : Spells pieces cs)
    (h' : Spells pieces' rest) : Spells (pieces ++ pieces') (cs ++ rest) :=
  ⟨List.forall_mem_append.mpr ⟨h.written, h'.written⟩, by rw [List.flatMap_append, h.text, h'.text]⟩

theorem Spells.head (h : Spells pieces cs) : ∀ c ∈ cs.head?, Text.isDigit c = true := by
  cases pieces with
  | nil =>
    cases h.text
    simp
  | cons x pieces =>
    obtain ⟨hx, rest, -, rfl⟩ := h.of_cons
    obtain ⟨c, more, hcons, hc⟩ := hx.eq_cons
    rw [hcons]
    rintro d hd
    cases hd
    exact hc

theorem Spells.no_blank (h : Spells pieces cs) : ∀ c ∈ cs, Text.isBlank c = false := by
  intro c hc
  rw [← h.text] at hc
  obtain ⟨x, hx, hc⟩ := List.mem_flatMap.mp hc
  exact (h.written x hx).no_blank c hc

theorem Spells.takePart? {x : Part × List Char} (hx : x.1.WrittenAs x.2) (h : Spells pieces rest) :
    takePart? (x.2 ++ rest) = some (x.1, rest) :=
  takePart?_append hx h.head

/-- What is read at the front of a text decides its decomposition. -/
theorem Spells.unique {pieces' : List (Part × List Char)} (h : Spells pieces cs)
    (h' : Spells pieces' cs) : pieces = pieces' := by
  induction pieces generalizing cs pieces' with
  | nil =>
    cases h.text
    cases pieces' with
    | nil => rfl
    | cons y pieces' =>
      obtain ⟨hy, rest, -, htext⟩ := h'.of_cons
      exact absurd (List.append_eq_nil_iff.mp htext.symm).1 hy.ne_nil
  | cons x pieces ih =>
    obtain ⟨hx, rest, hpieces, rfl⟩ := h.of_cons
    cases pieces' with
    | nil => exact absurd (List.append_eq_nil_iff.mp h'.text.symm).1 hx.ne_nil
    | cons y pieces' =>
      obtain ⟨hy, rest', hpieces', htext⟩ := h'.of_cons
      have hread := hpieces.takePart? hx
      rw [htext, hpieces'.takePart? hy, Option.some.injEq, Prod.mk.injEq] at hread
      obtain ⟨hpart, rfl⟩ := hread
      have hwritten : x.2 = y.2 := List.append_cancel_right htext
      rw [Prod.ext hpart.symm hwritten, ih hpieces hpieces']

/-! ## Reading -/

theorem findPart?_zero : findPart? cs = some (0, p, rest) ↔ takePart? cs = some (p, rest) := by
  cases cs with
  | nil => simp [findPart?, takePart?, takeDigits?]
  | cons c cs =>
    rw [findPart?]
    split <;> simp_all

theorem addParts_nil (fuel : Nat) (sum : Float) : addParts fuel sum [] = (sum, []) := by
  cases fuel <;> rfl

theorem addParts_spells {fuel : Nat} {sum : Float} (h : Spells pieces cs)
    (hfuel : cs.length ≤ fuel) : addParts fuel sum cs = (sumOf sum pieces, []) := by
  induction pieces generalizing fuel sum cs with
  | nil =>
    cases h.text
    exact addParts_nil fuel sum
  | cons x pieces ih =>
    obtain ⟨hx, rest, hpieces, rfl⟩ := h.of_cons
    have hsize : 0 < x.2.length := List.length_pos_iff.mpr hx.ne_nil
    rw [List.length_append] at hfuel
    cases fuel with
    | zero => omega
    | succ fuel =>
      rw [addParts, findPart?_zero.mpr (hpieces.takePart? hx)]
      exact ih hpieces (by omega)

/-- What is read to its end is made up of parts. -/
theorem exists_spells_of_addParts {fuel : Nat} {sum : Float}
    (h : (addParts fuel sum cs).2 = []) : ∃ pieces, Spells pieces cs := by
  induction fuel generalizing sum cs with
  | zero =>
    cases show cs = [] from h
    exact ⟨[], .nil⟩
  | succ fuel ih =>
    rw [addParts] at h
    split at h
    · rename_i part rest hfind
      obtain ⟨pieces, hpieces⟩ := ih h
      obtain ⟨u, hu, rfl⟩ := takePart?_eq_some (findPart?_zero.mp hfind)
      exact ⟨(part, u) :: pieces, hpieces.cons hu⟩
    · cases show cs = [] from h
      exact ⟨[], .nil⟩

/-- The number of a part is the double that its numeral is read as. -/
theorem Part.WrittenAs.readFloat? (hp : p.WrittenAs u) :
    Decimal.readFloat? p.numeral = some p.number :=
  Decimal.readFloat?_of_digits hp.nonempty hp.whole hp.fraction

theorem Spells.eq_nil_iff (h : Spells pieces cs) : pieces = [] ↔ cs = [] := by
  constructor
  · rintro rfl
    exact h.text.symm
  · rintro rfl
    exact h.unique .nil

section Texts

variable {text after : String} {more : List (Part × List Char)}

theorem Decomposes.parse_eq (h : Decomposes pieces text) : parse text = .ok (sumOf 0.0 pieces) := by
  obtain ⟨hne, hspells⟩ := h
  have hsome : (Text.trim text.toList).isEmpty = false :=
    List.isEmpty_eq_false_iff.mpr (mt hspells.eq_nil_iff.mpr hne)
  simp [parse, hsome, addParts_spells hspells (Nat.le_refl _)]

theorem parse_of_not_decomposes (h : ¬∃ pieces, Decomposes pieces text) :
    parse text = .error (refusal text) := by
  cases hsome : (Text.trim text.toList).isEmpty with
  | true => simp [parse, refusal, hsome]
  | false =>
    have hrest : (addParts (Text.trim text.toList).length 0.0 (Text.trim text.toList)).2 ≠ [] := by
      intro hnil
      obtain ⟨pieces, hspells⟩ := exists_spells_of_addParts hnil
      exact h ⟨pieces, mt hspells.eq_nil_iff.mp (List.isEmpty_eq_false_iff.mp hsome), hspells⟩
    simp [parse, refusal, hsome, hrest]

theorem exists_decomposes_of_parse {seconds : Float} (h : parse text = .ok seconds) :
    ∃ pieces, Decomposes pieces text := by
  refine Classical.byContradiction fun hnone => ?_
  rw [parse_of_not_decomposes hnone] at h
  cases h

theorem Decomposes.append (h : Decomposes pieces text) (h' : Decomposes more after)
    (htext : Text.trim text.toList = text.toList) (hafter : Text.trim after.toList = after.toList) :
    Decomposes (pieces ++ more) (text ++ after) := by
  have hspells : Spells (pieces ++ more) (text ++ after).toList := by
    rw [String.toList_append]
    exact (htext ▸ h.2).append (hafter ▸ h'.2)
  refine ⟨List.append_ne_nil_of_left_ne_nil h.1 more, ?_⟩
  rwa [Text.trim_of_no_blank hspells.no_blank]

end Texts

end Duration
end TelemetryCheck
