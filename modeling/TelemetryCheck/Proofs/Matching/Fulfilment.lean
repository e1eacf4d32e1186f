import TelemetryCheck.Proofs.FirstFailure
import TelemetryCheck.Proofs.Matching.Counts

/-!
# Signals that are fulfilled

What a signal asks of the records that were found, said without the order in which it is checked:
which records are meant, how many of them there may be, and what the first of them must carry.  A
signal that validation let pass is matched exactly where it is fulfilled, and nothing but the names
of the records and the attributes of the first one that is meant has a say in it.
-/

namespace TelemetryCheck

def isFoundIn (pattern text : String) : Bool :=
  match Pattern.compile pattern with
  | .ok p => p.search text
  | .error _ => false

namespace Signal

/-- Whether a record of this name is meant: each of the two constraints holds as far as it is
given. -/
def selects (s : Signal) (name : String) : Bool :=
  ((given? s.equals).all fun wanted => name == wanted) &&
    (given? s.regexp).all fun pattern => isFoundIn pattern name

def selected (s : Signal) (found : List Record) : List Record :=
  found.filter fun record => s.selects record.name

/-- A count that is not given asks for one match at least. -/
def AllowsCount (s : Signal) (n : Nat) : Prop :=
  match s.count with
  | none => 1 ≤ n
  | some range => range.Allows n

/-- A record carries every attribute that is asked for, and no other one if others are not
allowed. -/
structure CarriedBy (s : Signal) (record : Record) : Prop where
  values : ∀ a ∈ s.attributes, Json.field? a.1 record.attributes = some a.2
  patterns : ∀ a ∈ s.attributeRegexp, ∃ value,
    Json.field? a.1 record.attributes = some value ∧ isFoundIn a.2 value = true
  keys : s.noExtraAttributes = true → ∀ key, key ∈ record.attributes.map (·.1) ↔
    key ∈ s.attributes.map (·.1) ∨ key ∈ s.attributeRegexp.map (·.1)

/-- As many records are meant as there may be, and the first of them carries the attributes unless
nothing may be found. -/
structure Fulfilled (s : Signal) (found : List Record) : Prop where
  count : s.AllowsCount (s.selected found).length
  attributes : s.expectAbsent = false → ∃ first ∈ (s.selected found).head?, s.CarriedBy first

end Signal

/-! ## Names and counts -/

section Names

variable {s : Signal}

theorem patternMatches_eq (hs : s.Judgeable) (name : String) :
    nameMatches.patternMatches s name =
      .ok ((given? s.regexp).all fun pattern => isFoundIn pattern name) := by
  unfold nameMatches.patternMatches
  cases hr : given? s.regexp with
  | none => rfl
  | some r =>
    obtain ⟨p, hp⟩ := hs.name r hr
    simp only [compilePattern, isFoundIn, hp, Option.all_some]
    rfl

theorem nameMatches_eq (hs : s.Judgeable) (name : String) :
    nameMatches s name = .ok (s.selects name) := by
  unfold nameMatches Signal.selects
  rw [patternMatches_eq hs]
  cases given? s.equals with
  | none => rfl
  | some wanted =>
    by_cases hname : name = wanted
    · simp [hname]
    · simp [hname]

theorem filterRecords_eq (hs : s.Judgeable) (found : List Record) :
    filterRecords s found = .ok (s.selected found) := by
  induction found with
  | nil => rfl
  | cons record rest ih =>
    rw [filterRecords, nameMatches_eq hs, ih]
    show Except.ok (if s.selects record.name = true then record :: s.selected rest
      else s.selected rest) = .ok (s.selected (record :: rest))
    rw [Signal.selected, Signal.selected, List.filter_cons]

theorem checkCount_expectedRange_iff {n : Nat} :
    checkCount s.expectedRange n = .ok () ↔ s.AllowsCount n := by
  rw [CountRange.checkCount_eq_ok_iff]
  unfold Signal.expectedRange Signal.AllowsCount
  cases s.count with
  | none =>
    show CountRange.atLeastOne.Allows n ↔ 1 ≤ n
    have hpresent : CountRange.atLeastOne.isAbsence = false := by decide
    rw [CountRange.allows_of_not_isAbsence hpresent]
    show (1 : Int) ≤ n ∧ ((0 : Int) = 0 ∨ (n : Int) ≤ 0) ↔ 1 ≤ n
    omega
  | some range => exact Iff.rfl

end Names

/-! ## Attributes -/

section Attributes

variable {s : Signal} {record : Record} {key : String}

theorem checkAttribute_eq_ok_iff {want : String} :
    checkAttribute record key want = .ok () ↔
      Json.field? key record.attributes = some want := by
  unfold checkAttribute
  cases Json.field? key record.attributes with
  | none => simp
  | some value =>
    by_cases hvalue : value = want
    · simp [hvalue]
    · simp [hvalue]

theorem checkAttributeRegexp_eq_ok_iff {pattern : String} :
    checkAttributeRegexp record key pattern = .ok () ↔ ∃ value,
      Json.field? key record.attributes = some value ∧ isFoundIn pattern value = true := by
  unfold checkAttributeRegexp
  cases Json.field? key record.attributes with
  | none => simp
  | some value =>
    simp only [Option.some.injEq, exists_eq_left', bind_eq_ok, compilePattern, isFoundIn]
    cases Pattern.compile pattern with
    | error e => cases e <;> simp
    | ok p =>
      cases p.search value with
      | true => simp
      | false => simp

theorem mem_allowedKeys : key ∈ s.allowedKeys ↔
    key ∈ s.attributes.map (·.1) ∨ key ∈ s.attributeRegexp.map (·.1) := by
  rw [Signal.allowedKeys, List.mem_append, List.mem_filter, Bool.not_eq_true',
    List.contains_eq_mem, decide_eq_false_iff_not]
  by_cases h : key ∈ s.attributes.map (·.1)
  · simp only [h, true_or]
  · simp only [h, not_false_eq_true, and_true, false_or]

/-- No key is more than allowed and none is missing. -/
theorem checkNoExtra_eq_ok_iff : checkNoExtra s record = .ok () ↔
    ∀ key, key ∈ record.attributes.map (·.1) ↔ key ∈ s.allowedKeys := by
  have hpassed : checkNoExtra s record = .ok () ↔
      (∀ key ∈ record.attributes.map (·.1), key ∈ s.allowedKeys) ∧
        ∀ key ∈ s.allowedKeys, key ∈ record.attributes.map (·.1) := by
    unfold checkNoExtra
    simp only [List.isEmpty_iff, Bool.and_eq_true, List.filter_eq_nil_iff, Bool.not_eq_true',
      Bool.not_eq_false, List.contains_iff_mem]
    split
    · rename_i h
      exact ⟨fun _ => h, fun _ => rfl⟩
    · rename_i h
      exact ⟨fun hok => (nomatch hok), fun hboth => absurd hboth h⟩
  rw [hpassed]
  exact ⟨fun h key => ⟨h.1 key, h.2 key⟩, fun h => ⟨fun key => (h key).mp, fun key => (h key).mpr⟩⟩

theorem checkAttributes_eq_ok_iff : checkAttributes s record = .ok () ↔ s.CarriedBy record := by
  have hkeys : (if s.noExtraAttributes then checkNoExtra s record else .ok ()) = .ok () ↔
      (s.noExtraAttributes = true → ∀ key, key ∈ record.attributes.map (·.1) ↔
        key ∈ s.attributes.map (·.1) ∨ key ∈ s.attributeRegexp.map (·.1)) := by
    cases s.noExtraAttributes with
    | true =>
      simp only [if_true, checkNoExtra_eq_ok_iff, mem_allowedKeys, forall_const]
    | false => simp
  have hvalues : (s.attributes.forM fun a => checkAttribute record a.1 a.2) = .ok () ↔
      ∀ a ∈ s.attributes, Json.field? a.1 record.attributes = some a.2 := by
    simp only [forM_eq_ok_iff, checkAttribute_eq_ok_iff]
  have hpatterns :
      (s.attributeRegexp.forM fun a => checkAttributeRegexp record a.1 a.2) = .ok () ↔
        ∀ a ∈ s.attributeRegexp, ∃ value,
          Json.field? a.1 record.attributes = some value ∧ isFoundIn a.2 value = true := by
    simp only [forM_eq_ok_iff, checkAttributeRegexp_eq_ok_iff]
  have hall : checkAttributes s record = .ok () ↔ _ :=
    unit_bind_eq_ok.trans (and_congr hvalues (unit_bind_eq_ok.trans (and_congr hpatterns hkeys)))
  rw [hall]
  exact ⟨fun ⟨hv, hp, hk⟩ => ⟨hv, hp, hk⟩, fun h => ⟨h.values, h.patterns, h.keys⟩⟩

end Attributes

/-! ## Signals -/

namespace Signal

variable {s : Signal}

/-- What matching comes to, by the number of the records that are meant and the first of them. -/
def assess (s : Signal) (count : Nat) (first : Option Record) : Except Failure Unit := do
  checkCount s.expectedRange count
  if s.expectAbsent then return ()
  match first with
  | none => throw (.fault .noMatch)
  | some first => checkAttributes s first

theorem matchSignal_eq (hs : s.Judgeable) (found : List Record) :
    matchSignal s found = (s.assess (s.selected found).length (s.selected found).head?).map
      fun _ => s.selected found := by
  unfold matchSignal assess
  rw [filterRecords_eq hs]
  show (checkCount s.expectedRange (s.selected found).length >>= _) = _
  cases checkCount s.expectedRange (s.selected found).length with
  | error f => rfl
  | ok u =>
    cases s.expectAbsent with
    | true => rfl
    | false =>
      cases s.selected found with
      | nil => rfl
      | cons first rest =>
        show (checkAttributes s first >>= fun _ => .ok (first :: rest)) =
          (checkAttributes s first).map fun _ => first :: rest
        cases checkAttributes s first <;> rfl

theorem assess_eq_ok_iff {count : Nat} {first : Option Record} :
    s.assess count first = .ok () ↔ s.AllowsCount count ∧
      (s.expectAbsent = false → ∃ record ∈ first, s.CarriedBy record) := by
  unfold assess
  rw [unit_bind_eq_ok, ← checkCount_expectedRange_iff]
  cases s.expectAbsent with
  | true => simp [pure, Except.pure]
  | false =>
    cases first with
    | none => simp [throw, throwThe, MonadExceptOf.throw]
    | some record => simp [checkAttributes_eq_ok_iff]

/-- The names alone decide which records are meant. -/
theorem map_name_selected (s : Signal) (found : List Record) :
    (s.selected found).map Record.name = (found.map Record.name).filter s.selects := by
  rw [selected, List.filter_map]
  rfl

/-- A signal that validation let pass is matched, by exactly the records that are meant, where it is
fulfilled, and it is a mismatch in every other case.  Other attributes than those of the first
record that is meant change nothing: as long as it and all names stay the same, the same matches are
found, or the same mismatch is reported. -/
theorem matchSignal_decides {context : String} (h : validateSignal s context = .ok [])
    (found : List Record) :
    (matchSignal s found = .ok (s.selected found) ∧ s.Fulfilled found ∨
        (∃ message, matchSignal s found = .error (.mismatch message none none)) ∧
          ¬s.Fulfilled found) ∧
      ∀ found', found'.map Record.name = found.map Record.name →
        (s.selected found').head? = (s.selected found).head? →
          (matchSignal s found').map (List.map Record.name) =
            (matchSignal s found).map (List.map Record.name) := by
  have hs : s.Judgeable := judgeable_of_validateSignal h
  have hfulfilled : s.Fulfilled found ↔
      s.assess (s.selected found).length (s.selected found).head? = .ok () :=
    ⟨fun hf => assess_eq_ok_iff.mpr ⟨hf.count, hf.attributes⟩,
      fun hok => ⟨(assess_eq_ok_iff.mp hok).1, (assess_eq_ok_iff.mp hok).2⟩⟩
  constructor
  · have hverdict := matchSignal_isVerdict hs found
    rw [hfulfilled]
    rw [matchSignal_eq hs] at hverdict ⊢
    cases hassess : s.assess (s.selected found).length (s.selected found).head? with
    | ok u => exact .inl ⟨rfl, rfl⟩
    | error f =>
      rw [hassess] at hverdict
      obtain ⟨message, rfl⟩ := hverdict
      exact .inr ⟨⟨message, rfl⟩, fun hok => nomatch hok⟩
  · intro found' hnames hfirst
    have hselected : (s.selected found').map Record.name = (s.selected found).map Record.name := by
      rw [map_name_selected, map_name_selected, hnames]
    have hlength : (s.selected found').length = (s.selected found).length := by
      rw [← List.length_map Record.name, hselected, List.length_map]
    rw [matchSignal_eq hs, matchSignal_eq hs, hlength, hfirst]
    cases s.assess (s.selected found).length (s.selected found).head? with
    | error f => rfl
    | ok u => exact congrArg Except.ok hselected

/-! ### A request that is logged twice -/

def requestSignal : Signal where
  equals := some "GET /"
  regexp := some "^GET "
  attributes := [("status", "200")]
  attributeRegexp := [("status", "^2"), ("route", "^/")]
  noExtraAttributes := true
  count := some ⟨1, 2⟩

def requests (others : List (String × String)) : List Record :=
  [⟨"POST /", others⟩, ⟨"GET /", [("route", "/"), ("status", "200")]⟩, ⟨"GET /", others⟩]

theorem requests_matched :
    validateSignal requestSignal "logs[0]" = .ok [] ∧ requestSignal.Fulfilled (requests []) ∧
      ∀ others, (matchSignal requestSignal (requests others)).map (List.map Record.name) =
        .ok ["GET /", "GET /"] := by
  have hvalid : validateSignal requestSignal "logs[0]" = .ok [] := by decide +kernel
  obtain ⟨hdecided, hsame⟩ := matchSignal_decides hvalid (requests [])
  have hother : requestSignal.selects "POST /" = false := by decide +kernel
  have hmeant : requestSignal.selects "GET /" = true := by decide +kernel
  have hfirst : ∀ others, (requestSignal.selected (requests others)).head? =
      some ⟨"GET /", [("route", "/"), ("status", "200")]⟩ := by
    intro others
    simp only [selected, requests, List.filter_cons, hother, hmeant, if_true, List.head?_cons,
      Bool.false_eq_true, if_false]
  have hmatched : ((matchSignal requestSignal (requests [])).toOption.map (List.map Record.name)) =
      some ["GET /", "GET /"] := by
    decide +kernel
  rcases hdecided with ⟨hok, hfulfilled⟩ | ⟨⟨message, hmismatch⟩, -⟩
  · refine ⟨hvalid, hfulfilled, fun others => ?_⟩
    rw [hok] at hmatched
    rw [hsame (requests others) rfl (by rw [hfirst, hfirst]), hok]
    exact congrArg Except.ok (Option.some.inj hmatched)
  · rw [hmismatch] at hmatched
    cases hmatched

end Signal
end TelemetryCheck
