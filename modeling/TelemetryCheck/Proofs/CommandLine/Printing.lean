import TelemetryCheck.CommandLine.Commands
import TelemetryCheck.Proofs.Endpoint.OutputSearch

/-!
# What is printed

Whatever a command prints is lines behind what is there already, on the standard output or on the
standard error output.  Here they are written out, for a run that came to a result and for a
definition that cannot be used.
-/

namespace TelemetryCheck
namespace CommandLine

variable {τ : Type}

/-! ## Lines behind lines -/

def Console.showing (out err : List String) (c : Console) : Console :=
  { out := c.out ++ String.join (out.map (· ++ "\n"))
    err := c.err ++ String.join (err.map (· ++ "\n")) }

namespace Console

theorem showing_nil (c : Console) : c.showing [] [] = c := by
  simp [showing]

theorem showing_showing (out err out' err' : List String) (c : Console) :
    (c.showing out err).showing out' err' = c.showing (out ++ out') (err ++ err') := by
  simp only [showing, List.map_append, String.join_append, String.append_assoc]

theorem printLine_eq (line : String) (c : Console) : c.printLine line = c.showing [line] [] := by
  simp [printLine, showing, String.append_assoc]

theorem noteLine_eq (line : String) (c : Console) : c.noteLine line = c.showing [] [line] := by
  simp [noteLine, showing, String.append_assoc]

theorem notes_eq (lines : List String) (c : Console) : c.notes lines = c.showing [] lines := by
  induction lines generalizing c with
  | nil => exact (showing_nil c).symm
  | cons line rest ih =>
    have hrest : c.notes (line :: rest) = (c.noteLine line).notes rest := rfl
    rw [hrest, ih, noteLine_eq, showing_showing]
    rfl

theorem error_eq (message : String) (context : Context) (c : Console) :
    c.error message context = c.showing [] ["Error: " ++ message ++ contextText context] :=
  noteLine_eq _ c

end Console

theorem contextText_nil : contextText [] = "" := rfl

theorem contextText_one (name value : String) :
    contextText [(name, some value)] = " (" ++ name ++ "=" ++ value ++ ")" := by
  simp [contextText, String.append_assoc]

/-- The error that some of all test cases are not as they should be. -/
theorem countText (some all : Nat) (what : String) (context : Context) :
    "Error: " ++ (Decimal.natText some ++ " of " ++ Decimal.natText all ++ what) ++
        contextText context =
      "Error: " ++ toString some ++ " of " ++ toString all ++ what ++ contextText context := by
  have htext : ∀ n, Decimal.natText n = toString n := fun _ => rfl
  rw [htext, htext]
  simp only [String.append_assoc]

/-! ## Definitions that cannot be used -/

def firstLine (s : String) : String := String.ofList (s.toList.takeWhile fun c => !Text.isLineEnd c)

theorem firstLine_eq (s : String) :
    firstLine s = String.ofList ((Text.lines s.toList).headD []) := by
  cases hlines : Text.lines s.toList with
  | nil =>
    rw [firstLine, Text.lines_eq_nil_iff.mp hlines]
    rfl
  | cons line more => rw [firstLine, ← Text.first_line hlines, List.headD_cons]

/-- What follows the end of a line is not on the first one. -/
theorem firstLine_append {s t : String} (h : t = "" ∨ ∃ rest, t = "\n" ++ rest) :
    firstLine (s ++ t) = firstLine s := by
  have hnone : t.toList.takeWhile (fun c => !Text.isLineEnd c) = [] := by
    rcases h with rfl | ⟨rest, rfl⟩
    · rfl
    · rw [String.toList_append]
      rfl
  unfold firstLine
  rw [String.toList_append, List.takeWhile_append, hnone, List.append_nil]
  split
  · rename_i hwhole
    rw [(List.takeWhile_prefix _).eq_of_length hwhole]
  · rfl

/-- What a report begins with: its summary and its source, and a colon where failures follow. -/
def caption (m : Misconfiguration) : String :=
  let source := m.source.elim "" fun s => if s = "" then "" else " (" ++ s ++ ")"
  m.summary ++ source ++ if m.errors = [] then "" else ":"

theorem message_eq (m : Misconfiguration) :
    ∃ rest, m.message = caption m ++ rest ∧ (rest = "" ∨ ∃ items, rest = "\n" ++ items) := by
  have hmessage : m.message =
      m.summary ++ (m.source.elim "" fun s => if s = "" then "" else " (" ++ s ++ ")") ++
        if m.errors = [] then "" else
          ":\n" ++ "\n".intercalate (m.errors.map fun e => "  - " ++ e) := by
    unfold Misconfiguration.message
    cases m.source <;> simp
  rw [hmessage, caption]
  by_cases hnone : m.errors = []
  · rw [if_pos hnone, if_pos hnone]
    exact ⟨"", String.append_empty.symm, .inl rfl⟩
  · rw [if_neg hnone, if_neg hnone]
    have hcolon : ":\n" = ":" ++ "\n" := rfl
    refine ⟨"\n" ++ "\n".intercalate (m.errors.map fun e => "  - " ++ e), ?_, .inr ⟨_, rfl⟩⟩
    rw [hcolon]
    simp only [String.append_assoc]

/-- What is printed about a definition that cannot be used: the first line of its report, and every
failure that was found. -/
def refusalLines (m : Misconfiguration) : List String :=
  ("Error: " ++ firstLine (caption m)) :: m.errors.map fun e => "  - " ++ e

theorem misconfiguration_eq (m : Misconfiguration) (c : Console) :
    c.misconfiguration m = c.showing [] (refusalLines m) := by
  obtain ⟨rest, hmessage, hrest⟩ := message_eq m
  have hheadline : Console.headline m = firstLine (caption m) := by
    rw [Console.headline, ← firstLine_eq, hmessage, firstLine_append hrest]
  rw [Console.misconfiguration, Console.error_eq, hheadline, contextText_nil, String.append_empty,
    Console.notes_eq, Console.showing_showing]
  rfl

/-- What is printed about invalid test cases: every one of them, and how many they are. -/
def invalidLines (invalid : List Misconfiguration) (total : Nat) : List String :=
  invalid.flatMap refusalLines ++
    ["Error: " ++ toString invalid.length ++ " of " ++ toString total ++ " test cases are invalid"]

/-! ## Test cases that were run -/

def passLine (result : CaseResult τ) : String :=
  "PASS " ++ result.name ++ " (" ++ toString result.checks.length ++ " checks)"

/-- What is printed about a check that failed: what was checked, and the lines of its message. -/
def failureLines (r : CheckResult τ) : List String :=
  ("  [" ++ r.check.kind.text ++ "] " ++ r.check.description) ::
    (Text.lines r.message.toList).map fun line => "    " ++ String.ofList line

/-- What is printed about a test case that failed: its name with its log file, and every check that
failed. -/
def failLines (result : CaseResult τ) : List String :=
  ("Error: FAIL " ++ result.name ++ " (log_file=" ++ result.logFile.toText ++ ")") ::
    (result.checks.filter fun r => !r.passed).flatMap failureLines

theorem report_of_passed {result : CaseResult τ} (h : result.passed = true) (c : Console) :
    Commands.report result c = c.showing [passLine result] [] := by
  rw [Commands.report, if_pos h, Console.printLine_eq]
  rfl

theorem notes_failures (failures : List (CheckResult τ)) (c : Console) :
    failures.foldl (fun c failure =>
      (c.noteLine ("  [" ++ failure.check.kind.text ++ "] " ++ failure.check.description)).notes
        ((Text.lines failure.message.toList).map fun line => "    " ++ String.ofList line)) c =
      c.showing [] (failures.flatMap failureLines) := by
  induction failures generalizing c with
  | nil => exact (Console.showing_nil c).symm
  | cons failure rest ih =>
    rw [List.foldl_cons, ih, Console.noteLine_eq, Console.notes_eq, Console.showing_showing,
      Console.showing_showing]
    simp [failureLines]

theorem report_of_failed {result : CaseResult τ} (h : result.passed = false) (c : Console) :
    Commands.report result c = c.showing [] (failLines result) := by
  have hhead : "Error: " ++ ("FAIL " ++ result.name) ++
      contextText [("log_file", some result.logFile.toText)] =
        "Error: FAIL " ++ result.name ++ " (log_file=" ++ result.logFile.toText ++ ")" := by
    rw [contextText_one]
    refine String.toList_inj.mp ?_
    simp
  rw [Commands.report, if_neg (by simp [h]), notes_failures, Console.error_eq, hhead,
    Console.showing_showing]
  rfl

/-! ## All test cases -/

def announcement (c : TestCase τ) : String := "Running " ++ c.name ++ "..."

def runOut (run : TestCase τ × CaseResult τ) : List String :=
  if run.2.passed then [passLine run.2] else []

def runErr (run : TestCase τ × CaseResult τ) : List String :=
  announcement run.1 :: if run.2.passed then [] else failLines run.2

theorem report_eq (result : CaseResult τ) (c : Console) :
    Commands.report result c = c.showing (if result.passed then [passLine result] else [])
      (if result.passed then [] else failLines result) := by
  cases hpassed : result.passed with
  | true => exact report_of_passed hpassed c
  | false => exact report_of_failed hpassed c

def closingOut (results : List (CaseResult τ)) : List String :=
  if results.all (·.passed) then ["All " ++ toString results.length ++ " test cases passed"] else []

/-- The last line on the standard error output: how many test cases failed, and which. -/
def closingErr (results : List (CaseResult τ)) : List String :=
  let failed := (results.filter fun r => !r.passed).map (·.name)
  if results.all (·.passed) then []
  else ["Error: " ++ toString failed.length ++ " of " ++ toString results.length ++
    " test cases failed (failed=" ++ ", ".intercalate failed ++ ")"]

end CommandLine
end TelemetryCheck
