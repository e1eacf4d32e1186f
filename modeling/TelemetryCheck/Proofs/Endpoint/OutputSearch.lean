import Mathlib.Data.List.Infix
import TelemetryCheck.Endpoint

/-!
# Searching the output of services

The output is searched line by line, and lines hold no line ends.  A text without line ends that
occurs in the output lies within one line: it cannot reach over an end, and the first line is all
that comes before the first end.  So to search the lines is to search the output, but for a text with
a line end in it, which no line has, and for the empty text, which every line has.
-/

namespace TelemetryCheck
namespace Text

variable {c : Char} {part line text : List Char} {more : List (List Char)}

theorem occurs_iff : occurs part text = true ↔ part <:+: text := by
  induction text with
  | nil => simp [occurs]
  | cons c rest ih =>
    rw [occurs, Bool.or_eq_true, ih, List.isPrefixOf_iff_prefix, List.infix_cons_iff]

/-! ## Line ends -/

def lineEnds : List Char :=
  ['\n', '\x0b', '\x0c', '\r', '\x1c', '\x1d', '\x1e', '\u0085', '\u2028', '\u2029']

theorem isLineEnd_iff : isLineEnd c = true ↔ c ∈ lineEnds := by
  have hcode : ∀ d : Char, c = d ↔ c.toNat = d.toNat := fun d => Char.toNat_inj.symm
  simp only [lineEnds, List.mem_cons, List.not_mem_nil, or_false, hcode]
  simp [isLineEnd]
  omega

def OnOneLine (text : List Char) : Prop := ∀ c ∈ text, c ∉ lineEnds

instance (text : List Char) : Decidable (OnOneLine text) := List.decidableBAll _ _

theorem OnOneLine.not_lineEnd (h : OnOneLine text) (hc : c ∈ text) : isLineEnd c = false :=
  Bool.eq_false_iff.mpr fun hend => h c hc (isLineEnd_iff.mp hend)

theorem OnOneLine.of_subtext (h : OnOneLine text) (hpart : part <:+: text) : OnOneLine part :=
  fun c hc => h c (hpart.subset hc)

/-! ## Lines -/

theorem lines_eq_nil_iff : lines text = [] ↔ text = [] := by
  constructor
  · intro h
    fun_cases lines text <;> simp_all [lines]
  · rintro rfl
    rfl

theorem onOneLine_nil : OnOneLine [] := fun _ h => absurd h List.not_mem_nil

theorem onOneLine_cons : OnOneLine (c :: text) ↔ isLineEnd c = false ∧ OnOneLine text := by
  rw [OnOneLine, List.forall_mem_cons, ← isLineEnd_iff, Bool.not_eq_true]
  rfl

theorem onOneLine_of_mem_lines (h : line ∈ lines text) : OnOneLine line := by
  fun_induction lines text generalizing line with
  | case1 => exact absurd h List.not_mem_nil
  | case2 rest ih | case3 c rest _ hend ih =>
    obtain rfl | hin := List.mem_cons.mp h
    · exact onOneLine_nil
    · exact ih hin
  | case4 c rest _ hc hrest ih =>
    obtain rfl := List.mem_singleton.mp h
    exact onOneLine_cons.mpr ⟨Bool.eq_false_iff.mpr hc, onOneLine_nil⟩
  | case5 c rest _ hc first others hrest ih =>
    rw [hrest] at ih
    obtain rfl | hin := List.mem_cons.mp h
    · exact onOneLine_cons.mpr ⟨Bool.eq_false_iff.mpr hc, ih List.mem_cons_self⟩
    · exact ih (List.mem_cons_of_mem _ hin)

/-- The first line is all that comes before the first end. -/
theorem first_line (h : lines text = line :: more) :
    line = text.takeWhile fun c => !isLineEnd c := by
  fun_induction lines text generalizing line more with
  | case1 => cases h
  | case2 rest =>
    cases h
    rfl
  | case3 c rest _ hend =>
    cases h
    simp [hend]
  | case4 c rest _ hc hrest =>
    rw [lines_eq_nil_iff] at hrest
    cases h
    simp [hc, hrest]
  | case5 c rest _ hc first others hrest ih =>
    cases h
    simp [hc, ih hrest]

theorem prefix_of_first_line (h : lines text = line :: more) : line <+: text :=
  first_line h ▸ List.takeWhile_prefix _

theorem infix_of_mem_lines (h : line ∈ lines text) : line <:+: text := by
  fun_induction lines text generalizing line with
  | case1 => exact absurd h List.not_mem_nil
  | case2 rest ih =>
    obtain rfl | hin := List.mem_cons.mp h
    · exact List.nil_infix
    · exact List.infix_cons (List.infix_cons (ih hin))
  | case3 c rest _ hend ih =>
    obtain rfl | hin := List.mem_cons.mp h
    · exact List.nil_infix
    · exact List.infix_cons (ih hin)
  | case4 c rest _ hc hrest ih =>
    obtain rfl := List.mem_singleton.mp h
    exact (List.prefix_append [c] rest).isInfix
  | case5 c rest _ hc first others hrest ih =>
    obtain rfl | hin := List.mem_cons.mp h
    · exact ((List.prefix_cons_inj c).mpr (prefix_of_first_line hrest)).isInfix
    · exact List.infix_cons (ih (hrest ▸ List.mem_cons_of_mem _ hin))

/-- What a text begins with and holds no line end, its first line begins with. -/
theorem OnOneLine.prefix_first_line (hpart : OnOneLine part) (h : part <+: text)
    (hlines : lines text = line :: more) : part <+: line := by
  obtain ⟨behind, rfl⟩ := h
  rw [first_line hlines, List.takeWhile_append_of_pos fun c hc => by simp [hpart.not_lineEnd hc]]
  exact List.prefix_append part _

/-- A text behind a line end is not reached over it. -/
theorem OnOneLine.infix_of_cons (hpart : OnOneLine part) (hne : part ≠ []) (hend : isLineEnd c = true)
    (h : part <:+: c :: text) : part <:+: text := by
  refine (List.infix_cons_iff.mp h).resolve_left fun hprefix => ?_
  cases part with
  | nil => exact hne rfl
  | cons d part =>
    obtain ⟨rfl, -⟩ := List.cons_prefix_cons.mp hprefix
    exact hpart d List.mem_cons_self (isLineEnd_iff.mp hend)

/-- What occurs in a text and holds no line end occurs within a line. -/
theorem OnOneLine.exists_line (hpart : OnOneLine part) (hne : part ≠ []) (h : part <:+: text) :
    ∃ line ∈ lines text, part <:+: line := by
  fun_induction lines text with
  | case1 => exact absurd (List.infix_nil.mp h) hne
  | case2 rest ih =>
    have hrest := hpart.infix_of_cons hne (by decide) (hpart.infix_of_cons hne (by decide) h)
    obtain ⟨line, hline, hin⟩ := ih hrest
    exact ⟨line, List.mem_cons_of_mem _ hline, hin⟩
  | case3 c rest _ hend ih =>
    obtain ⟨line, hline, hin⟩ := ih (hpart.infix_of_cons hne hend h)
    exact ⟨line, List.mem_cons_of_mem _ hline, hin⟩
  | case4 c rest _ hc hrest ih =>
    rw [lines_eq_nil_iff] at hrest
    exact ⟨[c], List.mem_singleton_self _, hrest ▸ h⟩
  | case5 c rest hcrlf hc first others hrest ih =>
    have hlines : lines (c :: rest) = (c :: first) :: others := by
      rw [lines.eq_3 c rest hcrlf, if_neg hc, hrest]
    obtain hprefix | hinfix := List.infix_cons_iff.mp h
    · exact ⟨_, List.mem_cons_self, (hpart.prefix_first_line hprefix hlines).isInfix⟩
    · obtain ⟨line, hline, hin⟩ := ih hinfix
      rw [hrest] at hline
      obtain rfl | hother := List.mem_cons.mp hline
      · exact ⟨_, List.mem_cons_self, List.infix_cons hin⟩
      · exact ⟨line, List.mem_cons_of_mem _ hother, hin⟩

end Text

variable {message output : String}

theorem someLineHas_iff :
    someLineHas message output = true ↔
      ∃ line ∈ Text.lines output.toList, message.toList <:+: line := by
  simp only [someLineHas, List.any_eq_true, Text.occurs_iff]

/-- For a text that can stand on a line, it makes no difference that the output is searched by
lines. -/
theorem someLineHas_iff_infix (hne : message ≠ "") (hmessage : Text.OnOneLine message.toList) :
    someLineHas message output = true ↔ message.toList <:+: output.toList := by
  rw [someLineHas_iff]
  constructor
  · intro h
    obtain ⟨line, hline, hin⟩ := h
    exact hin.trans (Text.infix_of_mem_lines hline)
  · exact hmessage.exists_line fun h => hne (String.toList_eq_nil_iff.mp h)

theorem someLineHas_of_lineEnd (hmessage : ¬Text.OnOneLine message.toList) :
    someLineHas message output = false := by
  refine Bool.eq_false_iff.mpr fun h => ?_
  obtain ⟨line, hline, hin⟩ := someLineHas_iff.mp h
  exact hmessage ((Text.onOneLine_of_mem_lines hline).of_subtext hin)

theorem someLineHas_empty : someLineHas "" output = true ↔ output ≠ "" := by
  have hevery : ∀ line : List Char, "".toList <:+: line := fun _ => List.nil_infix
  simp only [someLineHas_iff, hevery, and_true]
  rw [← String.toList_eq_nil_iff.ne, ← Text.lines_eq_nil_iff.ne]
  exact ⟨fun ⟨_, hline⟩ => List.ne_nil_of_mem hline, List.exists_mem_of_ne_nil _⟩

/-- Searching the output that the services have put out by then, an endpoint finds a text that can
stand on a line if and only if it occurs anywhere in the output; a text with a line end in it is
never found, and the empty text wherever there is any output. -/
theorem searchComposeLogs_decides {ω : Type} (setup : HttpEndpoint.Setup)
    (client : Http.Client (Bench ω)) {provisioner : Provisioner (Bench ω)}
    {readLogs : Action (Bench ω) String} {b b' : Bench ω}
    (hlogs : provisioner.readLogs = some readLogs) (hread : readLogs.runFrom b = (.ok output, b'))
    (message : String) :
    ∃ found, ((HttpEndpoint.make setup client provisioner).searchComposeLogs message).runFrom b =
        (.ok found, b') ∧
      (message ≠ "" → Text.OnOneLine message.toList →
        (found = true ↔ message.toList <:+: output.toList)) ∧
      (¬Text.OnOneLine message.toList → found = false) ∧
      (message = "" → (found = true ↔ output ≠ "")) := by
  refine ⟨someLineHas message output, ?_, someLineHas_iff_infix, someLineHas_of_lineEnd, ?_⟩
  · show (HttpEndpoint.searchOutput provisioner message).runFrom b = _
    rw [HttpEndpoint.searchOutput, hlogs]
    simp only [Action.runFrom_bind, hread]
    rfl
  · rintro rfl
    exact someLineHas_empty

def diceServices : Provisioner (Bench Unit) :=
  { name := "Dice", start := pure (), stop := pure ()
    readLogs := some (pure "ready\r\nrolling 4\n") }

def idleClient : Http.Client (Bench Unit) where
  request _ := throw .unfinished
  get _ _ := throw .unfinished
  close := pure ()

def emptyBench : Bench Unit := { world := () }

def diceEndpoint : Endpoint (Bench Unit) := HttpEndpoint.make { ports := {} } idleClient diceServices

/-- What stands on the second line is found, what reaches over the end of the first is not. -/
theorem dice_searched :
    ((diceEndpoint.searchComposeLogs "rolling").runFrom emptyBench).1 = .ok true ∧
      ((diceEndpoint.searchComposeLogs "ready\r\nrolling").runFrom emptyBench).1 = .ok false := by
  have hlogs : diceServices.readLogs = some (pure "ready\r\nrolling 4\n") := rfl
  have hread : (pure "ready\r\nrolling 4\n" : Action (Bench Unit) String).runFrom emptyBench =
    (.ok "ready\r\nrolling 4\n", emptyBench) := rfl
  obtain ⟨inside, hinside, hoccurs, -, -⟩ :=
    searchComposeLogs_decides { ports := {} } idleClient hlogs hread "rolling"
  obtain ⟨across, hacross, -, hends, -⟩ :=
    searchComposeLogs_decides { ports := {} } idleClient hlogs hread "ready\r\nrolling"
  have hfound : inside = true := (hoccurs (by decide) (by decide)).mpr
    ⟨"ready\r\n".toList, " 4\n".toList, by decide⟩
  rw [diceEndpoint, hinside, hacross, hfound, hends (by decide)]
  exact ⟨rfl, rfl⟩

end TelemetryCheck
