import Mathlib.Data.List.Induction
import TelemetryCheck.Proofs.Findings
import TelemetryCheck.Proofs.Text.Digits
import TelemetryCheck.Requests

/-!
# Validated inputs

Validation looks at the fields of an input as they are written.  Sending fills in what is left out,
changes case and reads the status as a number, and falls back to a number of its own where that
fails.  The two agree: what validation lets through is a call that a client can make, and its status
is the integer that is written, whatever the script of its digits.
-/

namespace TelemetryCheck

/-! ## Integers as they are written -/

namespace Decimal

/-- Decimal digits of any script, and the number that they write. -/
inductive Numeral : List Char → Nat → Prop
  | digit {c : Char} {d : Nat} : Text.digit? c = some d → Numeral [c] d
  | snoc {cs : List Char} {n : Nat} {c : Char} {d : Nat} : Numeral cs n → Text.digit? c = some d →
      Numeral (cs ++ [c]) (10 * n + d)

/-- Digits with a sign before them or without one, and the integer that they write. -/
inductive Writes : List Char → Int → Prop
  | unsigned {cs : List Char} {n : Nat} : Numeral cs n → Writes cs n
  | plus {cs : List Char} {n : Nat} : Numeral cs n → Writes ('+' :: cs) n
  | minus {cs : List Char} {n : Nat} : Numeral cs n → Writes ('-' :: cs) (-n)

variable {cs : List Char} {n : Int}

theorem digitsValue_concat (cs : List Char) {c : Char} {d : Nat} (h : Text.digit? c = some d) :
    Text.digitsValue (cs ++ [c]) = 10 * Text.digitsValue cs + d := by
  rw [Text.digitsValue, List.foldl_append, List.foldl_cons, List.foldl_nil, h]
  rfl

theorem numeral_iff {n : Nat} :
    Numeral cs n ↔
      cs ≠ [] ∧ (∀ c ∈ cs, Text.isDigit c = true) ∧ Text.digitsValue cs = n := by
  constructor
  · intro h
    induction h with
    | digit hd =>
      refine ⟨List.cons_ne_nil _ _, fun c hc => ?_, ?_⟩
      · rw [List.mem_singleton.mp hc, Text.isDigit, hd]
        rfl
      · rw [← List.nil_append [_], digitsValue_concat [] hd]
        exact Nat.zero_add _
    | snoc _ hd ih =>
      obtain ⟨-, hdigits, hvalue⟩ := ih
      refine ⟨by simp, List.forall_mem_append.mpr ⟨hdigits, fun c hc => ?_⟩, ?_⟩
      · rw [List.mem_singleton.mp hc, Text.isDigit, hd]
        rfl
      · rw [digitsValue_concat _ hd, hvalue]
  · rintro ⟨hne, hdigits, rfl⟩
    -- the last digit is the one that was added
    induction cs using List.reverseRecOn with
    | nil => exact absurd rfl hne
    | append_singleton cs c ih =>
      obtain ⟨hinit, hlast⟩ := List.forall_mem_append.mp hdigits
      obtain ⟨d, hd⟩ := Option.isSome_iff_exists.mp (hlast c List.mem_cons_self)
      rw [digitsValue_concat cs hd]
      cases cs with
      | nil => exact .digit (by rw [hd]; exact congrArg some (Nat.zero_add d).symm)
      | cons first rest => exact .snoc (ih (List.cons_ne_nil _ _) hinit) hd

/-- What a text writes can be read off its sign and its digits. -/
theorem writes_iff :
    Writes cs n ↔ isIntegerText cs = true ∧
      n = if (takeSign cs).1 then -(Text.digitsValue (takeSign cs).2 : Int)
        else Text.digitsValue (takeSign cs).2 := by
  have hinteger : isIntegerText cs = true ↔
      Numeral (takeSign cs).2 (Text.digitsValue (takeSign cs).2) := by
    rw [numeral_iff]
    simp [isIntegerText]
  rw [hinteger]
  constructor
  · intro h
    cases h with
    | unsigned h =>
      obtain ⟨hne, hdigits, rfl⟩ := numeral_iff.mp h
      obtain ⟨c, rest, rfl⟩ := List.exists_cons_of_ne_nil hne
      rw [takeSign_of_digit (hdigits c List.mem_cons_self)]
      exact ⟨h, rfl⟩
    | plus h =>
      obtain ⟨-, -, rfl⟩ := numeral_iff.mp h
      exact ⟨h, rfl⟩
    | minus h =>
      obtain ⟨-, -, rfl⟩ := numeral_iff.mp h
      exact ⟨h, rfl⟩
  · rintro ⟨h, rfl⟩
    generalize hsign : takeSign cs = signed at h
    unfold takeSign at hsign
    split at hsign
    · cases hsign
      exact .minus h
    · cases hsign
      exact .plus h
    · cases hsign
      exact .unsigned h

theorem Writes.unique {m : Int} (h : Writes cs m) (h' : Writes cs n) : m = n :=
  (writes_iff.mp h).2.trans (writes_iff.mp h').2.symm

/-- A text of digits that is not too long is read as what it writes. -/
theorem readInteger_eq_ok_iff (h : isIntegerText cs = true) :
    readInteger cs = .ok n ↔ Writes cs n ∧ (takeSign cs).2.length ≤ maxIntegerDigits := by
  have hdigits : (takeSign cs).2 ≠ [] ∧ ∀ c ∈ (takeSign cs).2, Text.isDigit c = true := by
    simpa [isIntegerText] using h
  rw [readInteger_of_digits hdigits.1 hdigits.2, writes_iff, and_iff_right h]
  split
  · rename_i hlong
    exact iff_of_false (by simp) fun hshort => absurd hshort.2 (Nat.not_le_of_lt hlong)
  · rename_i hshort
    rw [Except.ok.injEq, and_iff_left (Nat.le_of_not_lt hshort)]
    exact eq_comm

end Decimal

/-! ## What validation asks of an input -/

variable {i : Input} {inputs : List Input} {n : Int}

/-- The status that an input asks for: the integer that is written, or 200 where nothing is. -/
inductive Input.AsksFor (i : Input) : Int → Prop
  | default : i.status = "" → i.AsksFor 200
  | written {n : Int} : Decimal.Writes i.status.toList n → i.AsksFor n

structure Input.Valid (i : Input) : Prop where
  path : i.path ≠ ""
  status : i.status ≠ "" → ∃ n, Decimal.Writes i.status.toList n ∧ n.natAbs ≤ maxStatus ∧
    (Decimal.takeSign i.status.toList).2.length ≤ Decimal.maxIntegerDigits
  method : i.method ≠ "" → upperText i.method ∈ httpMethods
  body : i.effectiveMethod = "GET" → i.body = ""
  scheme : i.scheme ≠ "" → lowerText i.scheme ∈ httpSchemes

theorem statusFailures_eq_nil {status context : String} :
    statusFailures status context = .ok [] ↔ (status ≠ "" → ∃ n,
      Decimal.Writes status.toList n ∧ n.natAbs ≤ maxStatus ∧
        (Decimal.takeSign status.toList).2.length ≤ Decimal.maxIntegerDigits) := by
  unfold statusFailures
  by_cases hempty : status = ""
  · subst hempty
    exact iff_of_true rfl fun h => absurd rfl h
  rw [if_neg (by rwa [String.isEmpty_iff])]
  cases hinteger : isIntegerText status.toList with
  | false =>
    refine iff_of_false (by simp) fun h => ?_
    obtain ⟨n, hn, -⟩ := h hempty
    rw [(Decimal.writes_iff.mp hn).1] at hinteger
    cases hinteger
  | true =>
    have hread := fun n => Decimal.readInteger_eq_ok_iff (n := n) hinteger
    cases hvalue : Decimal.readInteger status.toList with
    | error e =>
      refine iff_of_false (by simp) fun h => ?_
      obtain ⟨n, hn, -, hlength⟩ := h hempty
      rw [(hread n).mpr ⟨hn, hlength⟩] at hvalue
      cases hvalue
    | ok n =>
      obtain ⟨hn, hlength⟩ := (hread n).mp hvalue
      have hsmall : (.ok (note (maxStatus < n.natAbs) ("status must parse as integer or be empty in "
          ++ context)) : Findings) = .ok [] ↔ n.natAbs ≤ maxStatus := by
        rw [Except.ok.injEq, note_eq_nil, decide_eq_false_iff_not, Nat.not_lt]
      simp only [Bool.not_true, Bool.false_eq_true, if_false]
      rw [hsmall]
      constructor
      · exact fun hle _ => ⟨n, hn, hle, hlength⟩
      · intro h
        obtain ⟨m, hm, hle, -⟩ := h hempty
        rwa [hn.unique hm]

/-- A note that is made where something is not as it has to be. -/
theorem note_unless_eq_nil {asked met : Bool} {message : String} :
    note (asked && !met) message = [] ↔ (asked = true → met = true) := by
  cases asked <;> cases met <;> simp [note]

theorem validateInput_eq_nil {index : Nat} : validateInput index i = .ok [] ↔ i.Valid := by
  have hgiven : ∀ s : String, (!s.isEmpty) = true ↔ s ≠ "" := fun s => by
    rw [Bool.not_eq_true', ← Bool.not_eq_true, String.isEmpty_iff]
  simp only [validateInput, collect_eq_nil, List.forall_mem_cons, Except.ok.injEq,
    List.append_eq_nil_iff, note_unless_eq_nil, statusFailures_eq_nil, hgiven, beq_iff_eq,
    List.contains_iff_mem, String.isEmpty_iff]
  rw [note_eq_nil, ← Bool.not_eq_true, String.isEmpty_iff]
  constructor
  · rintro ⟨hpath, hstatus, ⟨⟨hmethod, hbody⟩, hscheme⟩, -⟩
    exact ⟨hpath, hstatus, hmethod, hbody, hscheme⟩
  · rintro ⟨hpath, hstatus, hmethod, hbody, hscheme⟩
    exact ⟨hpath, hstatus, ⟨⟨hmethod, hbody⟩, hscheme⟩, fun _ h => absurd h List.not_mem_nil⟩

theorem validateInputs_eq_nil : validateInputs inputs = .ok [] ↔ ∀ i ∈ inputs, i.Valid := by
  rw [validateInputs, collect_eq_nil]
  constructor
  · intro h i hi
    obtain ⟨index, hindex⟩ := findings_of_mem h hi
    exact validateInput_eq_nil.mp hindex
  · intro h part hpart
    obtain ⟨index, hindex, rfl⟩ := List.mem_mapIdx.mp hpart
    exact validateInput_eq_nil.mpr (h _ (List.getElem_mem hindex))

/-! ## Sending -/

/-- A call that is what an input says, with a default for everything that it leaves out. -/
structure SentAs (i : Input) (ports : Ports) (call : Http.Call) : Prop where
  method : call.method = upperText (if i.method = "" then "GET" else i.method)
  supported : call.method ∈ httpMethods
  capital : upperText call.method = call.method
  url : ∃ scheme ∈ httpSchemes, scheme = lowerText (if i.scheme = "" then "http" else i.scheme) ∧
    call.url = scheme ++ "://" ++ (if i.host = "" then "localhost" else i.host) ++ ":" ++
      Decimal.natText ports.application ++ i.path
  headers : call.headers = i.headers
  body : call.body = if i.body = "" then none else some i.body
  bodiless : call.method = "GET" → call.body = none

theorem maxStatus_eq : maxStatus = 2147483647 := by decide +kernel

theorem orDefault_eq (s default : String) :
    orDefault s default = if s = "" then default else s := by
  simp only [orDefault, String.isEmpty_iff]

theorem upperText_of_mem : ∀ m ∈ httpMethods, upperText m = m := by decide +kernel

namespace Input.Valid

theorem effectiveMethod_mem (h : i.Valid) : i.effectiveMethod ∈ httpMethods := by
  rw [effectiveMethod, orDefault_eq]
  split
  · decide +kernel
  · rename_i hgiven
    exact h.method hgiven

theorem effectiveScheme_mem (h : i.Valid) : i.effectiveScheme ∈ httpSchemes := by
  rw [effectiveScheme, orDefault_eq]
  split
  · decide +kernel
  · rename_i hgiven
    exact h.scheme hgiven

/-- The status that is expected is the one that the input asks for, and never one to fall back to. -/
theorem asksFor_expectedStatus (h : i.Valid) :
    i.AsksFor i.expectedStatus ∧ i.expectedStatus.natAbs ≤ maxStatus ∧
      (i.status ≠ "" → Decimal.readInteger i.status.toList = .ok i.expectedStatus) := by
  unfold expectedStatus
  by_cases hempty : i.status = ""
  · rw [if_pos (String.isEmpty_iff.mpr hempty)]
    exact ⟨.default hempty, by rw [maxStatus_eq]; decide, fun hgiven => absurd hempty hgiven⟩
  · obtain ⟨n, hn, hle, hlength⟩ := h.status hempty
    have hread : Decimal.readInteger i.status.toList = .ok n :=
      (Decimal.readInteger_eq_ok_iff (Decimal.writes_iff.mp hn).1).mpr ⟨hn, hlength⟩
    rw [if_neg (by rwa [String.isEmpty_iff]), hread]
    exact ⟨.written hn, hle, fun _ => rfl⟩

theorem sentAs_inputCall (h : i.Valid) (ports : Ports) : SentAs i ports (inputCall i ports) where
  method := congrArg upperText (orDefault_eq _ _)
  supported := h.effectiveMethod_mem
  capital := upperText_of_mem _ h.effectiveMethod_mem
  url := ⟨i.effectiveScheme, h.effectiveScheme_mem, congrArg lowerText (orDefault_eq _ _), by
    rw [← orDefault_eq]; rfl⟩
  headers := rfl
  body := by simp only [inputCall, String.isEmpty_iff]
  bodiless hget := if_pos (String.isEmpty_iff.mpr (h.body hget))

end Input.Valid

theorem Input.AsksFor.unique {m : Int} (h : i.AsksFor m) (h' : i.AsksFor n) : m = n := by
  have hnone : ∀ {k : Int}, i.status = "" → ¬Decimal.Writes i.status.toList k := by
    intro k hempty hwrites
    have hinteger := (Decimal.writes_iff.mp hwrites).1
    rw [hempty] at hinteger
    cases hinteger
  cases h with
  | default hempty =>
    cases h' with
    | default => rfl
    | written hwrites => exact absurd hwrites (hnone hempty)
  | written hwrites =>
    cases h' with
    | default hempty => exact absurd hwrites (hnone hempty)
    | written hwrites' => exact hwrites.unique hwrites'

/-- An input that validation lets through is sent as one call, which is what the input says.  It
goes well exactly if the answer has the status that the input asks for, and what is written there
can always be read. -/
theorem validated_sent_as_written (h : validateInputs inputs = .ok []) (hi : i ∈ inputs)
    (ports : Ports) :
    SentAs i ports (inputCall i ports) ∧
      ∃ n : Int, i.AsksFor n ∧ (∀ m, i.AsksFor m → m = n) ∧ n.natAbs ≤ 2147483647 ∧
        (i.status ≠ "" → Decimal.readInteger i.status.toList = .ok n) ∧
        ∀ {σ : Type} (client : Http.Client σ) (s : σ),
          ((sendInput client ports i).runFrom s).2 =
              ((client.request (inputCall i ports)).runFrom s).2 ∧
            (((sendInput client ports i).runFrom s).1 = .ok () ↔
              ∃ content, ((client.request (inputCall i ports)).runFrom s).1 =
                .ok (.answered n content)) := by
  have hvalid : i.Valid := validateInputs_eq_nil.mp h i hi
  obtain ⟨hasks, hle, hread⟩ := hvalid.asksFor_expectedStatus
  rw [maxStatus_eq] at hle
  refine ⟨hvalid.sentAs_inputCall ports, i.expectedStatus, hasks, fun m hm => hm.unique hasks, hle,
    hread, fun client s => ?_⟩
  rw [runFrom_sendInput]
  refine ⟨rfl, ?_⟩
  cases ((client.request (inputCall i ports)).runFrom s).1 with
  | error f => simp [bind, Except.bind]
  | ok exchange =>
    show checkInput i ports exchange = .ok () ↔ _
    simp only [checkInput_eq_ok, Except.ok.injEq]

def owners : Input :=
  { scheme := "HTTPS", host := "app", method := "po\u017ft", path := "/owners",
    headers := [("content-type", "application/json")], body := "\x7b\x7d",
    status := "+\u0662\u0660\u0661" }

theorem owners_sent : validateInputs [owners] = .ok [] ∧
    inputCall owners {} = ⟨"POST", "https://app:8080/owners",
      [("content-type", "application/json")], some "\x7b\x7d"⟩ ∧
    ∀ (client : Http.Client Unit),
      ((sendInput client {} owners).runFrom ()).1 = .ok () ↔
        ∃ content, ((client.request (inputCall owners {})).runFrom ()).1 =
          .ok (.answered 201 content) := by
  have hvalid : validateInputs [owners] = .ok [] := by decide +kernel
  obtain ⟨-, n, -, hunique, -, -, hsent⟩ :=
    validated_sent_as_written hvalid List.mem_cons_self {}
  have hasks : owners.AsksFor 201 :=
    .written (Decimal.writes_iff.mpr ⟨by decide +kernel, by decide +kernel⟩)
  obtain rfl : 201 = n := hunique 201 hasks
  exact ⟨hvalid, by decide +kernel, fun client => (hsent client ()).2⟩

end TelemetryCheck
