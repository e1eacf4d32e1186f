import Mathlib.Tactic.Linarith
import TelemetryCheck.Heartbeat
import TelemetryCheck.Proofs.Time.Exact

/-!
# The rhythm of a heartbeat

A heartbeat is asked whether it is due, and reset, in any order, while the clock never goes back.
It remembers when the present interval began and nothing else.  Whatever a call comes to, that is
when the latest interval of all began, and it lies at least one interval after the creation for each
time that the heartbeat has fired.  So it never fires too soon, nor too often, nor too late.
-/

namespace TelemetryCheck
namespace Heartbeat

variable {τ : Type}

/-! ## Calls -/

inductive Call (τ : Type)
  | due (now : τ)
  | reset (now : τ)

def Call.time : Call τ → τ
  | due now => now
  | reset now => now

inductive Beat (τ : Type)
  | fired (now : τ)
  | silent (now : τ)
  | reset (now : τ)

namespace Beat

def call : Beat τ → Call τ
  | fired now => .due now
  | silent now => .due now
  | reset now => .reset now

def time (b : Beat τ) : τ := b.call.time

def fires : Beat τ → Bool
  | fired _ => true
  | _ => false

def begins : Beat τ → Bool
  | silent _ => false
  | _ => true

end Beat

def answer [Time τ] (h : Heartbeat τ) : Call τ → Beat τ × Heartbeat τ
  | .due now => (if (h.due now).1 then .fired now else .silent now, (h.due now).2)
  | .reset now => (.reset now, h.reset now)

def beats [Time τ] (h : Heartbeat τ) : List (Call τ) → List (Beat τ)
  | [] => []
  | call :: rest => (h.answer call).1 :: (h.answer call).2.beats rest

/-- All that a call can come to: an interval has passed and the next one begins, or none has passed
and nothing changes, or one begins because it was asked for. -/
inductive Answered [Time τ] (h : Heartbeat τ) : Call τ → Beat τ → Heartbeat τ → Prop
  | fired {now : τ} : h.interval ≤ now - h.last →
      Answered h (.due now) (.fired now) (h.reset now)
  | silent {now : τ} : ¬h.interval ≤ now - h.last → Answered h (.due now) (.silent now) h
  | reset {now : τ} : Answered h (.reset now) (.reset now) (h.reset now)

section Answer

variable [Time τ] {h h' : Heartbeat τ} {call : Call τ} {beat : Beat τ}

theorem answered_answer (h : Heartbeat τ) (call : Call τ) :
    Answered h call (h.answer call).1 (h.answer call).2 := by
  cases call with
  | due now =>
    by_cases hle : h.interval ≤ now - h.last
    · rw [answer, due_of_le hle]
      exact .fired hle
    · rw [answer, due_of_not_le hle]
      exact .silent hle
  | reset now => exact .reset

theorem Answered.call_eq (hanswered : Answered h call beat h') : beat.call = call := by
  cases hanswered <;> rfl

/-- Each call has an answer, and no two calls share one. -/
theorem map_call_beats (h : Heartbeat τ) (calls : List (Call τ)) :
    (h.beats calls).map Beat.call = calls := by
  induction calls generalizing h with
  | nil => rfl
  | cons call rest ih =>
    unfold beats
    rw [List.map_cons, (answered_answer h call).call_eq, ih]

end Answer

/-! ## When intervals began -/

/-- When intervals began: at the creation, and whenever the heartbeat fired or was reset. -/
def starts (t₀ : τ) (past : List (Beat τ)) : List τ :=
  t₀ :: (past.filter Beat.begins).map Beat.time

def latestStart (t₀ : τ) (past : List (Beat τ)) : τ :=
  (starts t₀ past).getLast (List.cons_ne_nil _ _)

section Starts

variable {t₀ : τ} {past : List (Beat τ)} {beat : Beat τ}

theorem starts_concat_of_begins (h : beat.begins = true) :
    starts t₀ (past ++ [beat]) = starts t₀ past ++ [beat.time] := by
  unfold starts
  rw [List.filter_append, List.filter_cons_of_pos h, List.map_append]
  rfl

theorem starts_concat_of_not_begins (h : ¬beat.begins = true) :
    starts t₀ (past ++ [beat]) = starts t₀ past := by
  unfold starts
  rw [List.filter_append, List.filter_cons_of_neg h, List.filter_nil, List.append_nil]

theorem latestStart_concat_of_begins (h : beat.begins = true) :
    latestStart t₀ (past ++ [beat]) = beat.time := by
  unfold latestStart
  simp only [starts_concat_of_begins h, List.getLast_concat]

theorem latestStart_concat_of_not_begins (h : ¬beat.begins = true) :
    latestStart t₀ (past ++ [beat]) = latestStart t₀ past := by
  unfold latestStart
  simp only [starts_concat_of_not_begins h]

end Starts

/-! ## What a heartbeat keeps -/

open ExactTime (real)

variable [Time τ] [ExactTime τ]

/-- What is known of a heartbeat after what its calls came to, when the clock last showed `now`. -/
structure Kept (interval t₀ : τ) (past : List (Beat τ)) (h : Heartbeat τ) (now : τ) : Prop where
  interval_eq : h.interval = interval
  last_eq : h.last = latestStart t₀ past
  start_le : ∀ s ∈ starts t₀ past, real s ≤ real h.last
  counted : real t₀ + past.countP Beat.fires * real interval ≤ real h.last
  last_le : real h.last ≤ real now

variable {interval t₀ now t : τ} {past : List (Beat τ)} {h h' : Heartbeat τ} {call : Call τ}
  {beat : Beat τ}

theorem kept_start (interval t₀ : τ) : Kept interval t₀ [] (start interval t₀) t₀ where
  interval_eq := rfl
  last_eq := rfl
  start_le := List.forall_mem_singleton.mpr le_rfl
  counted := by
    rw [List.countP_nil, Nat.cast_zero, zero_mul, add_zero]
    rfl
  last_le := le_rfl

namespace Kept

theorem last_add_le (hkept : Kept interval t₀ past h now) (hdue : h.interval ≤ t - h.last) :
    real h.last + real interval ≤ real t := by
  rw [ExactTime.le_iff, ExactTime.real_sub, hkept.interval_eq] at hdue
  linarith

/-- The time at which it fires lies one more interval after the creation. -/
theorem count_succ_le (hkept : Kept interval t₀ past h now) (hdue : h.interval ≤ t - h.last) :
    real t₀ + (past.countP Beat.fires + 1 : ℕ) * real interval ≤ real t := by
  have hfires := hkept.last_add_le hdue
  have hcounted := hkept.counted
  push_cast
  linarith

theorem last_le_of_le (hkept : Kept interval t₀ past h now) (hle : now ≤ t) :
    real h.last ≤ real t :=
  hkept.last_le.trans (ExactTime.le_iff.mp hle)

/-- The next interval begins, not before the present one did. -/
theorem next (hkept : Kept interval t₀ past h now) (hle : now ≤ beat.time)
    (hbegins : beat.begins = true)
    (hcounted : real t₀ + (past ++ [beat]).countP Beat.fires * real interval ≤ real beat.time) :
    Kept interval t₀ (past ++ [beat]) (h.reset beat.time) beat.time where
  interval_eq := hkept.interval_eq
  last_eq := (latestStart_concat_of_begins hbegins).symm
  start_le := by
    rw [starts_concat_of_begins hbegins]
    refine List.forall_mem_append.mpr ⟨fun s hs => ?_, List.forall_mem_singleton.mpr le_rfl⟩
    exact (hkept.start_le s hs).trans (hkept.last_le_of_le hle)
  counted := hcounted
  last_le := le_rfl

/-- One case for each outcome of a call. -/
theorem answered (hkept : Kept interval t₀ past h now) (hle : now ≤ call.time)
    (hanswered : Answered h call beat h') : Kept interval t₀ (past ++ [beat]) h' call.time := by
  cases hanswered with
  | fired hdue =>
    refine hkept.next hle rfl ?_
    rw [List.countP_append]
    exact hkept.count_succ_le hdue
  | @silent t _ =>
    have hnot : ¬(Beat.silent t).begins = true := Bool.false_ne_true
    refine ⟨hkept.interval_eq, ?_, ?_, ?_, hkept.last_le_of_le hle⟩
    · rw [latestStart_concat_of_not_begins hnot]
      exact hkept.last_eq
    · rw [starts_concat_of_not_begins hnot]
      exact hkept.start_le
    · rw [List.countP_append]
      exact hkept.counted
  | reset =>
    refine hkept.next hle rfl ?_
    rw [List.countP_append]
    exact hkept.counted.trans (hkept.last_le_of_le hle)

end Kept

/-! ## All calls -/

/-- The clock shows `now` and then the times of the calls, and never goes back. -/
def NeverBack (now : τ) (calls : List (Call τ)) : Prop :=
  (now :: calls.map Call.time).IsChain (· ≤ ·)

/-- Each beat is the answer of a heartbeat that has kept all that came before.  The induction is on
the calls. -/
theorem Kept.at_beat (hkept : Kept interval t₀ past h now) {calls : List (Call τ)}
    (hclock : NeverBack now calls) {before after : List (Beat τ)}
    (hbeats : h.beats calls = before ++ beat :: after) :
    ∃ h₁ h₂ call now₁, Kept interval t₀ (past ++ before) h₁ now₁ ∧ Answered h₁ call beat h₂ := by
  induction calls generalizing past h now before with
  | nil =>
    rw [beats, List.nil_eq_append_iff] at hbeats
    cases hbeats.2
  | cons call rest ih =>
    obtain ⟨hle, hrest⟩ := List.isChain_cons_cons.mp hclock
    have hanswered := answered_answer h call
    rw [beats] at hbeats
    cases before with
    | nil =>
      rw [List.nil_append, List.cons.injEq] at hbeats
      obtain ⟨rfl, -⟩ := hbeats
      rw [List.append_nil]
      exact ⟨h, _, call, now, hkept, hanswered⟩
    | cons first before =>
      rw [List.cons_append, List.cons.injEq] at hbeats
      obtain ⟨rfl, hbeats⟩ := hbeats
      rw [List.append_cons]
      exact ih (hkept.answered hle hanswered) hrest hbeats

/-- Beats as they should be of a heartbeat that was created at `t₀`.  The `k`-th time that it fires
comes `k` intervals after the creation, or later.  It never fires until an interval has passed since
every start before.  Where it is silent, less than an interval has passed since the latest start. -/
structure InRhythm (interval t₀ : τ) (beats : List (Beat τ)) : Prop where
  counted {before after : List (Beat τ)} {t : τ} {k : ℕ} : beats = before ++ .fired t :: after →
    before.countP Beat.fires + 1 = k → real t₀ + k * real interval ≤ real t
  spaced {before after : List (Beat τ)} {t : τ} : beats = before ++ .fired t :: after →
    ∀ s ∈ starts t₀ before, real s + real interval ≤ real t
  prompt {before after : List (Beat τ)} {t : τ} : beats = before ++ .silent t :: after →
    real t - real (latestStart t₀ before) < real interval

/-- However a heartbeat is asked and reset while the clock never goes back, each call has its
answer, and the answers are in rhythm. -/
theorem beats_inRhythm (interval t₀ : τ) (calls : List (Call τ)) (hclock : NeverBack t₀ calls) :
    ((start interval t₀).beats calls).map Beat.call = calls ∧
      InRhythm interval t₀ ((start interval t₀).beats calls) := by
  have hkept := kept_start interval t₀
  refine ⟨map_call_beats _ calls, ?_, ?_, ?_⟩
  · intro before after t k hbeats hk
    obtain ⟨h, _, _, now, hbefore, hanswered⟩ := hkept.at_beat hclock hbeats
    cases hanswered with
    | fired hdue => exact hk ▸ hbefore.count_succ_le hdue
  · intro before after t hbeats s hs
    obtain ⟨h, _, _, now, hbefore, hanswered⟩ := hkept.at_beat hclock hbeats
    cases hanswered with
    | fired hdue =>
      have hstart := hbefore.start_le s hs
      have hfires := hbefore.last_add_le hdue
      linarith
  · intro before after t hbeats
    obtain ⟨h, _, _, now, hbefore, hanswered⟩ := hkept.at_beat hclock hbeats
    cases hanswered with
    | silent hdue =>
      rw [ExactTime.le_iff, ExactTime.real_sub, hbefore.interval_eq, hbefore.last_eq] at hdue
      exact not_le.mp hdue

/-! ### An interval of ten ticks

It fires on time, but then not before ten ticks have passed since the reset.
-/

theorem tens_inRhythm :
    (start (10 : Int) 0).beats [.due 0, .due 10, .due 10, .reset 15, .due 20, .due 25] =
        [.silent 0, .fired 10, .silent 10, .reset 15, .silent 20, .fired 25] ∧
      InRhythm (10 : Int) 0
        [.silent 0, .fired 10, .silent 10, .reset 15, .silent 20, .fired 25] :=
  ⟨rfl, (beats_inRhythm (10 : Int) 0 [.due 0, .due 10, .due 10, .reset 15, .due 20, .due 25]
    (by unfold NeverBack; decide)).2⟩

end Heartbeat
end TelemetryCheck
