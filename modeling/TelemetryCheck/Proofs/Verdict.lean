import TelemetryCheck.Comparator
import TelemetryCheck.Matching
import TelemetryCheck.Proofs.Findings

/-!
# Verdicts

Validation and matching read the same expectation in two places: validation before anything is
started, matching while a check is polled.  Where validation finds nothing, a matcher comes to a
verdict on whatever was found.  It returns or reports a mismatch, and it never stops at a pattern
that does not compile, at a comparator that cannot be read or at a first match that is not there.
-/

namespace TelemetryCheck

/-- A result, or a mismatch that is tried again. -/
def IsVerdict {α : Type} : Except Failure α → Prop
  | .ok _ => True
  | .error f => ∃ message, f = .mismatch message none none

namespace IsVerdict

variable {α β : Type}

theorem bind {a : Except Failure α} {k : α → Except Failure β} (ha : IsVerdict a)
    (hk : ∀ x, a = .ok x → IsVerdict (k x)) : IsVerdict (a >>= k) := by
  cases a with
  | ok x => exact hk x rfl
  | error f => exact ha

theorem forM {items : List α} {check : α → Except Failure Unit}
    (h : ∀ x ∈ items, IsVerdict (check x)) : IsVerdict (items.forM check) := by
  induction items with
  | nil => exact trivial
  | cons x rest ih =>
    exact (h x List.mem_cons_self).bind fun _ _ =>
      ih fun y hy => h y (List.mem_cons_of_mem x hy)

end IsVerdict

/-! ## Expectations that can be judged -/

theorem compilePattern_of_compiles {pattern : String} (h : Compiles pattern) (what : String) :
    ∃ p, compilePattern pattern what = .ok p := by
  obtain ⟨p, hp⟩ := h
  exact ⟨p, by rw [compilePattern, hp]⟩

namespace Signal

/-- What matching relies on in a signal.  Where nothing may be found, attributes are not looked at
and no first match is taken. -/
structure Judgeable (s : Signal) : Prop where
  name : ∀ r, given? s.regexp = some r → Compiles r
  attributes : s.expectAbsent = false → ∀ a ∈ s.attributeRegexp, Compiles a.2
  count : s.expectAbsent = false → 0 < s.expectedRange.least

theorem isAbsence_expectedRange (s : Signal) : s.expectedRange.isAbsence = s.expectAbsent := by
  unfold expectedRange expectAbsent
  cases s.count <;> rfl

/-- The patterns of attributes are compiled unless they are empty, and an empty one is a finding of
its own except where nothing may be found. -/
theorem judgeable_of_validateSignal {s : Signal} {context : String}
    (h : validateSignal s context = .ok []) : s.Judgeable := by
  rw [validateSignal, collect_eq_nil] at h
  simp only [List.mem_append, List.mem_cons, List.mem_map, List.not_mem_nil, or_false] at h
  have hmode := h _ (.inl (.inl (.inr (.inl rfl))))
  have hname := h _ (.inl (.inl (.inr (.inr rfl))))
  have hcount := h _ (.inr rfl)
  have hpresent : s.expectAbsent = false → presenceFailures s context = [] := by
    intro hp
    simpa [hp] using hmode
  constructor
  · intro r hr
    exact validatePattern_eq_nil.mp (elim_eq_nil.mp hname r hr)
  · intro hp a ha
    have hgiven := hpresent hp
    rw [presenceFailures, List.append_eq_nil_iff] at hgiven
    have hfilled := (attributeFailures_eq_nil.mp hgiven.2 a ha).2
    have hpattern := h _ (.inl (.inr ⟨a, ha, rfl⟩))
    rw [hfilled, if_neg Bool.false_ne_true] at hpattern
    exact validatePattern_eq_nil.mp hpattern
  · intro hp
    have hvalid : validateCount s.count context = [] := by simpa using hcount
    refine least_pos_of_validateCount hvalid ?_
    intro r hr
    rwa [expectAbsent, hr] at hp

end Signal

/-! ## The matchers -/

section Matchers

variable {s : Signal}

theorem nameMatches_ok (hs : s.Judgeable) (name : String) :
    ∃ matched, nameMatches s name = .ok matched := by
  have hpattern : ∃ matched, nameMatches.patternMatches s name = .ok matched := by
    unfold nameMatches.patternMatches
    cases hr : given? s.regexp with
    | none => exact ⟨true, rfl⟩
    | some r =>
      obtain ⟨p, hp⟩ := compilePattern_of_compiles (hs.name r hr) "regexp"
      exact ⟨p.search name, by simp only [hp, Except.map]⟩
  unfold nameMatches
  cases given? s.equals with
  | none => exact hpattern
  | some e =>
    by_cases he : name ≠ e
    · exact ⟨false, if_pos he⟩
    · simpa only [if_neg he] using hpattern

theorem filterRecords_ok (hs : s.Judgeable) (found : List Record) :
    ∃ matched, filterRecords s found = .ok matched := by
  induction found with
  | nil => exact ⟨[], rfl⟩
  | cons record rest ih =>
    obtain ⟨matched, hm⟩ := nameMatches_ok hs record.name
    obtain ⟨more, hmore⟩ := ih
    exact ⟨if matched then record :: more else more, by rw [filterRecords, hm, hmore]; rfl⟩

theorem checkCount_isVerdict (range : CountRange) (count : Int) :
    IsVerdict (checkCount range count) := by
  unfold checkCount
  split
  · split
    · exact trivial
    · exact ⟨_, rfl⟩
  · split
    · exact ⟨_, rfl⟩
    · exact trivial

/-- A count that passes is at least the least one. -/
theorem least_le_of_checkCount {range : CountRange} {count : Int} (hr : range.isAbsence = false)
    (h : checkCount range count = .ok ()) : range.least ≤ count := by
  rw [checkCount, hr, if_neg Bool.false_ne_true] at h
  split at h
  · cases h
  · omega

theorem checkAttribute_isVerdict (record : Record) (key want : String) :
    IsVerdict (checkAttribute record key want) := by
  unfold checkAttribute
  split
  · exact ⟨_, rfl⟩
  · split
    · exact trivial
    · exact ⟨_, rfl⟩

theorem checkAttributeRegexp_isVerdict (record : Record) {key pattern : String}
    (h : Compiles pattern) : IsVerdict (checkAttributeRegexp record key pattern) := by
  obtain ⟨p, hp⟩ := compilePattern_of_compiles h "attribute-regexp"
  unfold checkAttributeRegexp
  split
  · exact ⟨_, rfl⟩
  · rename_i value _
    rw [hp]
    show IsVerdict (if p.search value then .ok () else _)
    split
    · exact trivial
    · exact ⟨_, rfl⟩

theorem checkNoExtra_isVerdict (s : Signal) (record : Record) :
    IsVerdict (checkNoExtra s record) := by
  unfold checkNoExtra
  dsimp only
  split
  · exact trivial
  · exact ⟨_, rfl⟩

theorem checkAttributes_isVerdict (hs : ∀ a ∈ s.attributeRegexp, Compiles a.2)
    (record : Record) : IsVerdict (checkAttributes s record) := by
  have hexact : IsVerdict (s.attributes.forM fun a => checkAttribute record a.1 a.2) :=
    .forM fun a _ => checkAttribute_isVerdict record a.1 a.2
  have hpattern :
      IsVerdict (s.attributeRegexp.forM fun a => checkAttributeRegexp record a.1 a.2) :=
    .forM fun a ha => checkAttributeRegexp_isVerdict record (hs a ha)
  refine hexact.bind fun _ _ => hpattern.bind fun _ _ => ?_
  split
  · exact checkNoExtra_isVerdict s record
  · exact trivial

/-- The first match is taken only after a count that passed, and then there is one. -/
theorem matchSignal_isVerdict (hs : s.Judgeable) (found : List Record) :
    IsVerdict (matchSignal s found) := by
  obtain ⟨matched, hm⟩ := filterRecords_ok hs found
  rw [matchSignal, hm]
  refine (checkCount_isVerdict s.expectedRange matched.length).bind fun _ hcount => ?_
  cases ha : s.expectAbsent with
  | true => exact trivial
  | false =>
    have hrange : s.expectedRange.isAbsence = false := by rw [s.isAbsence_expectedRange, ha]
    have hpos := hs.count ha
    have hle := least_le_of_checkCount hrange hcount
    cases matched with
    | nil =>
      simp only [List.length_nil, Int.ofNat_zero] at hle
      omega
    | cons first rest =>
      exact (checkAttributes_isVerdict (hs.attributes ha) first).bind fun _ _ => trivial

theorem compareMetric_isVerdict {value context : String} (h : valueFailures value context = [])
    (actual : Float) : IsVerdict (compareMetric value actual) := by
  unfold valueFailures at h
  unfold compareMetric
  cases hp : parseComparator value with
  | error m =>
    rw [hp] at h
    split at h <;> simp at h
  | ok parsed =>
    obtain ⟨c, expected⟩ := parsed
    dsimp only
    split
    · exact trivial
    · exact ⟨_, rfl⟩

theorem matchName_isVerdict {equals regexp : Option String}
    (h : ∀ r, given? regexp = some r → Compiles r) (names : List String) :
    IsVerdict (matchName equals regexp names) := by
  unfold matchName
  cases hr : given? regexp with
  | none =>
    dsimp only [bind, Except.bind, pure, Except.pure]
    split
    · exact trivial
    · exact ⟨_, rfl⟩
  | some r =>
    obtain ⟨p, hp⟩ := compilePattern_of_compiles (h r hr) "regexp"
    dsimp only
    rw [hp]
    dsimp only [Except.map, bind, Except.bind, pure, Except.pure]
    split
    · exact trivial
    · exact ⟨_, rfl⟩

end Matchers

/-! ## Validated definitions -/

section Validated

variable {isFile : FileTest} {directory : Path} {d : Definition}

theorem judgeable_of_mem_logs (h : Clean isFile directory d) {e : ExpectedLogs}
    (he : e ∈ d.expected.logs) : e.signal.Judgeable := by
  obtain ⟨index, hi⟩ := findings_of_mem h.logs he
  rw [validateLogs, collect_cons_eq_nil, collect_cons_eq_nil] at hi
  exact Signal.judgeable_of_validateSignal hi.2.1

theorem judgeable_of_mem_traces (h : Clean isFile directory d) {e : ExpectedTraces}
    (he : e ∈ d.expected.traces) : e.signal.Judgeable := by
  obtain ⟨index, hi⟩ := findings_of_mem h.traces he
  rw [validateTraces, collect_cons_eq_nil, collect_cons_eq_nil] at hi
  exact Signal.judgeable_of_validateSignal hi.2.1

theorem valueFailures_of_mem_metrics (h : Clean isFile directory d) {e : ExpectedMetrics}
    (he : e ∈ d.expected.metrics) : ∃ context, valueFailures e.value context = [] := by
  obtain ⟨index, hi⟩ := findings_of_mem h.metrics he
  rw [validateMetrics, Except.ok.injEq, List.append_eq_nil_iff] at hi
  exact ⟨_, hi.2⟩

theorem compiles_of_mem_profiles (h : Clean isFile directory d) {e : ExpectedProfiles}
    (he : e ∈ d.expected.profiles) :
    ∀ r, given? e.flamebearers.regexp = some r → Compiles r := by
  obtain ⟨index, hi⟩ := findings_of_mem h.profiles he
  rw [validateProfiles, collect_cons_eq_nil, collect_cons_eq_nil] at hi
  intro r hr
  exact validatePattern_eq_nil.mp (elim_eq_nil.mp hi.2.1 r hr)

/-- Where validation finds nothing, every matcher comes to a verdict on whatever was found. -/
theorem validated_expectations_judged (h : validateDefinition isFile directory d = .ok []) :
    (∀ e ∈ d.expected.logs, ∀ found, IsVerdict (matchSignal e.signal found)) ∧
      (∀ e ∈ d.expected.traces, ∀ found, IsVerdict (matchSignal e.signal found)) ∧
      (∀ e ∈ d.expected.metrics, ∀ actual, IsVerdict (compareMetric e.value actual)) ∧
      (∀ e ∈ d.expected.profiles, ∀ names,
        IsVerdict (matchName e.flamebearers.equals e.flamebearers.regexp names)) := by
  have hclean := clean_of_validateDefinition h
  refine ⟨fun e he found => ?_, fun e he found => ?_, fun e he actual => ?_,
    fun e he names => ?_⟩
  · exact matchSignal_isVerdict (judgeable_of_mem_logs hclean he) found
  · exact matchSignal_isVerdict (judgeable_of_mem_traces hclean he) found
  · obtain ⟨context, hvalue⟩ := valueFailures_of_mem_metrics hclean he
    exact compareMetric_isVerdict hvalue actual
  · exact matchName_isVerdict (compiles_of_mem_profiles hclean he) names

end Validated

/-- A definition with an expectation of each kind, with patterns for names and attributes and with
one signal that must be absent. -/
def everyKind : Definition where
  dockerCompose := some {}
  expected :=
    { logs := [{
        logql := "rolls"
        signal := { regexp := some "rolled [1-6]", attributeRegexp := [("level", "^info$")] } }]
      traces := [{ traceql := "errors", signal := { count := some ⟨0, 0⟩ } }]
      metrics := [{ promql := "rolls_total", value := ">= 1" }]
      profiles := [{ query := "cpu", flamebearers := { regexp := some "main|run" } }] }

theorem everyKind_judged :
    (∀ found, IsVerdict (matchSignal
        { regexp := some "rolled [1-6]", attributeRegexp := [("level", "^info$")] } found)) ∧
      (∀ found, IsVerdict (matchSignal { count := some ⟨0, 0⟩ } found)) ∧
      (∀ actual, IsVerdict (compareMetric ">= 1" actual)) ∧
      ∀ names, IsVerdict (matchName none (some "main|run") names) := by
  have h : validateDefinition (fun _ => .ok true) ⟨"/", []⟩ everyKind = .ok [] := by
    decide +kernel
  have hjudged := validated_expectations_judged h
  simp only [everyKind, List.mem_singleton, forall_eq] at hjudged
  exact hjudged

end TelemetryCheck
