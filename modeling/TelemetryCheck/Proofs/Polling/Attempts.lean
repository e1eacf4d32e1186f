import Mathlib.Algebra.Order.Floor.Semiring
import Mathlib.Tactic.Linarith
import TelemetryCheck.Proofs.Conversion.Accepted
import TelemetryCheck.Proofs.Polling.Transcript
import TelemetryCheck.Proofs.Time.Extended

/-!
# The number of attempts

There is no counter in a polling.  It ends because each pause either takes the whole interval, which
is never zero, or reaches the deadline.  So after `n` failures at least `n` intervals have passed, or
the deadline has, and there are no more attempts than intervals begun before the deadline.  Where
more rounds than that are allowed, none is missing at the end: a polling fails only if one of its
parts does.
-/

namespace TelemetryCheck
namespace Polling

open ExtendedTime (value)

variable {σ τ : Type} [Time τ] [ExtendedTime τ]

/-- The time that a state is at never goes back; the clock shows one between before it is looked at
and after.  A sleep that comes to its end takes as long as it was asked to, or longer. -/
structure Advancing (clock : Clock σ τ) (plan : Plan σ τ) (time : σ → ℝ) : Prop where
  now (s : σ) : ∃ shown : ℝ, value (clock.now.run s).1 = shown ∧
    time s ≤ shown ∧ shown ≤ time (clock.now.run s).2
  sleep {wait : τ} {x : ℝ} {s s' : σ} : value wait = x → 0 < x →
    (clock.sleep wait).runFrom s = (.ok (), s') → time s + x ≤ time s'
  attempt (s : σ) : time s ≤ time (plan.attempt.runFrom s).2
  onRetry (n : Nat) (elapsed : τ) (e : Retryable) (s : σ) :
    time s ≤ time ((plan.onRetry n elapsed e).runFrom s).2

/-- Time passes in sleeps only, and exactly as much as is asked for. -/
structure Prompt (clock : Clock σ τ) (plan : Plan σ τ) (time : σ → ℝ) : Prop where
  now (s : σ) : value (clock.now.run s).1 = time s ∧ time (clock.now.run s).2 = time s
  sleep {wait : τ} {x : ℝ} {s s' : σ} : value wait = x → 0 < x →
    (clock.sleep wait).runFrom s = (.ok (), s') → time s' = time s + x
  attempt (s : σ) : time (plan.attempt.runFrom s).2 = time s
  onRetry (n : Nat) (elapsed : τ) (e : Retryable) (s : σ) :
    time ((plan.onRetry n elapsed e).runFrom s).2 = time s

/-- As many attempts as intervals are begun before the deadline, and one at least. -/
noncomputable def mostAttempts (limit : ℝ) (interval : EReal) : Nat :=
  max 1 ⌈((limit : EReal) / interval).toReal⌉₊

structure Lasts (plan : Plan σ τ) (limit : ℝ) (interval : EReal) : Prop where
  deadline_eq : value plan.deadline = limit
  interval_eq : value plan.interval = interval
  interval_pos : 0 < interval

/-- After `n` attempts that failed, `n` intervals have passed since `start`, or the deadline has. -/
structure Spent (limit : ℝ) (interval : EReal) (start : ℝ) (n : Nat) (now : ℝ) : Prop where
  start_le : start ≤ now
  spent : n = 0 ∨ limit ≤ now - start ∨ ∃ x : ℝ, interval = x ∧ n * x ≤ now - start

variable {clock : Clock σ τ} {plan : Plan σ τ} {time : σ → ℝ} {limit : ℝ} {interval : EReal}
  {start now : ℝ} {n : Nat}

/-- Another interval has passed, or all the time that there was. -/
theorem Spent.next {later : ℝ} (h : Spent limit interval start n now) (hlater : now ≤ later)
    (hnext : limit ≤ later - start ∨ ∃ x : ℝ, interval = x ∧ now + x ≤ later) :
    Spent limit interval start (n + 1) later := by
  refine ⟨h.start_le.trans hlater, .inr ?_⟩
  rcases hnext with hlimit | ⟨x, hx, hstep⟩
  · exact .inl hlimit
  have hstart := h.start_le
  rcases h.spent with rfl | hlimit | ⟨y, hy, hspent⟩
  · refine .inr ⟨x, hx, ?_⟩
    push_cast
    linarith
  · exact .inl (by linarith)
  · obtain rfl : x = y := EReal.coe_eq_coe_iff.mp (hx.symm.trans hy)
    refine .inr ⟨x, hx, ?_⟩
    push_cast
    linarith

/-- Where the deadline has not passed, there is room for one attempt more. -/
theorem Spent.lt_mostAttempts (h : Spent limit interval start n now) (hpos : 0 < interval)
    (hbefore : 0 < n → now - start < limit) : n < mostAttempts limit interval := by
  rcases Nat.eq_zero_or_pos n with rfl | hn
  · exact lt_of_lt_of_le Nat.one_pos (le_max_left _ _)
  have hin := hbefore hn
  rcases h.spent with rfl | hlimit | ⟨x, rfl, hspent⟩
  · exact absurd hn (Nat.lt_irrefl 0)
  · exact absurd hin (not_lt.mpr hlimit)
  · have hlt : (n : ℝ) < limit / x := by
      rw [lt_div_iff₀ (EReal.coe_pos.mp hpos)]
      exact lt_of_le_of_lt hspent hin
    have hquotient : ((limit : EReal) / (x : EReal)).toReal = limit / x := by
      rw [← EReal.coe_div, EReal.toReal_coe]
    refine lt_of_lt_of_le ?_ (le_max_right _ _)
    rw [hquotient]
    exact Nat.lt_ceil.mpr hlt

/-- The value of what is slept between two attempts, if anything is. -/
theorem value_wait (h : Lasts plan limit interval) {elapsed : τ} {x : ℝ}
    (helapsed : value elapsed = x) :
    ∃ wait : ℝ, value (Time.least plan.interval (plan.deadline - elapsed)) = wait ∧
      wait ≤ limit - x ∧ (wait = limit - x ∨ interval = wait) := by
  have hvalue : value (Time.least plan.interval (plan.deadline - elapsed)) =
      min interval ((limit - x : ℝ) : EReal) := by
    rw [ExtendedTime.value_least, h.interval_eq, ExtendedTime.value_sub h.deadline_eq helapsed]
  rcases le_or_gt ((limit - x : ℝ) : EReal) interval with hle | hlt
  · rw [min_eq_right hle] at hvalue
    exact ⟨limit - x, hvalue, le_rfl, .inl rfl⟩
  · rw [min_eq_left hlt.le] at hvalue
    -- an interval that is less than what is left is not endless
    have hreal : interval = (interval.toReal : EReal) :=
      (EReal.coe_toReal (ne_top_of_lt hlt) (ne_bot_of_gt h.interval_pos)).symm
    refine ⟨interval.toReal, hvalue.trans hreal, ?_, .inr hreal⟩
    rw [hreal] at hlt
    exact (EReal.coe_lt_coe_iff.mp hlt).le

/-! ## One round -/

section Round

variable {began : τ} {s s' : σ} {head : τ} {e : Retryable}

theorem Advancing.spent_of_retried (h : Advancing clock plan time)
    (hlasts : Lasts plan limit interval) (hbegan : value began = start)
    (hspent : Spent limit interval start n (time s)) (hround : Retried clock plan began n s e s') :
    Spent limit interval start (n + 1) (time s') := by
  obtain ⟨hhead, -, hattempt, hnow, htold, hpause⟩ := hround
  rename_i s₁ s₂ s₃ s₄ head now
  obtain ⟨_, -, h₀, h₁⟩ := h.now s
  have h₂ := h.attempt s₁
  obtain ⟨shown, hshown, h₃, h₄⟩ := h.now s₂
  have h₅ := h.onRetry (n + 1) (now - began) e s₃
  rw [hhead] at h₁
  rw [hattempt] at h₂
  rw [hnow] at hshown h₄
  rw [htold] at h₅
  dsimp only at h₁ h₂ hshown h₄ h₅
  obtain ⟨wait, hwait, -, hcases⟩ := value_wait hlasts (ExtendedTime.value_sub hshown hbegan)
  rw [pause_eq] at hpause
  by_cases hpos : 0 < wait
  · rw [if_pos ((ExtendedTime.zero_lt_iff hwait).mpr hpos)] at hpause
    have h₆ := h.sleep hwait hpos hpause
    refine hspent.next (by linarith) ?_
    rcases hcases with rfl | hinterval
    · exact .inl (by linarith)
    · exact .inr ⟨wait, hinterval, by linarith⟩
  · rw [if_neg ((ExtendedTime.zero_lt_iff hwait).not.mpr hpos)] at hpause
    cases hpause
    refine hspent.next (by linarith) (.inl ?_)
    -- nothing is slept only where nothing is left, for an interval is never zero
    rcases hcases with rfl | hinterval
    · linarith
    · refine absurd hlasts.interval_pos ?_
      rw [hinterval]
      exact fun hlt => hpos (EReal.coe_pos.mp hlt)

/-- Where a round makes an attempt, there is room for it. -/
theorem Advancing.lt_mostAttempts (h : Advancing clock plan time)
    (hlasts : Lasts plan limit interval) (hbegan : value began = start)
    (hspent : Spent limit interval start n (time s)) {s₁ : σ}
    (hhead : clock.now.run s = (head, s₁)) (hbefore : ¬Expired plan began n head) :
    n < mostAttempts limit interval := by
  refine hspent.lt_mostAttempts hlasts.interval_pos fun hn => ?_
  obtain ⟨shown, hshown, hle, -⟩ := h.now s
  rw [hhead] at hshown
  refine lt_of_not_ge fun hover => hbefore ⟨hn, ?_⟩
  rw [ExtendedTime.le_iff, hlasts.deadline_eq, ExtendedTime.value_sub hshown hbegan]
  exact EReal.coe_le_coe_iff.mpr (by linarith)

end Round

/-! ## All rounds -/

section Rounds

variable {began : τ}

theorem Advancing.noted (h : Advancing clock plan time) :
    Advancing (notedClock clock) plan.noted fun s => time s.state where
  now s := h.now s.state
  sleep hwait hpos hrun := h.sleep hwait hpos (congrArg (Prod.map id Noted.state) hrun)
  attempt s := h.attempt s.state
  onRetry n elapsed e s := h.onRetry n elapsed e s.state

/-- The induction follows the rounds.  At the head of each, as many attempts are noted as failed
before it, and there was room for all of them. -/
theorem Advancing.length_attempts_le (h : Advancing clock plan time)
    (hlasts : Lasts plan limit interval) (hbegan : value began = start) {last : Option Retryable}
    {s s' : Noted σ τ} {ending : Except Failure (PollResult τ)}
    (hcourse : Course (notedClock clock) plan.noted began n last s ending s')
    (hn : (attempts s.moments).length = n) (hroom : n ≤ mostAttempts limit interval)
    (hspent : Spent limit interval start n (time s.state)) :
    (attempts s'.moments).length ≤ mostAttempts limit interval := by
  have hnoted : Lasts plan.noted limit interval :=
    ⟨hlasts.deadline_eq, hlasts.interval_eq, hlasts.interval_pos⟩
  have hone : ∀ {n : Nat} {s s₁ : Noted σ τ} {head : τ},
      (attempts s.moments).length = n → Spent limit interval start n (time s.state) →
      (notedClock clock).now.run s = (head, s₁) → ¬Expired plan.noted began n head →
      ∀ outcome, (attempts s.moments ++ [outcome]).length ≤ mostAttempts limit interval := by
    intro n s s₁ head hn hspent hhead hbefore outcome
    rw [List.length_append, hn]
    exact h.noted.lt_mostAttempts hnoted hbegan hspent hhead hbefore
  induction hcourse with
  | cutOff _ => exact hn.trans_le hroom
  | expired hhead _ =>
    rw [attempts_looked hhead]
    exact hn.trans_le hroom
  | passed hhead hbefore hattempt hnow =>
    rw [attempts_looked hnow, attempts_tried hattempt, attempts_looked hhead]
    exact hone hn hspent hhead hbefore _
  | broken hhead hbefore hattempt _ =>
    rw [attempts_tried hattempt, attempts_looked hhead]
    exact hone hn hspent hhead hbefore _
  | untold hhead hbefore hattempt hnow htold =>
    rw [attempts_told htold, attempts_looked hnow, attempts_tried hattempt, attempts_looked hhead]
    exact hone hn hspent hhead hbefore _
  | roused hhead hbefore hattempt hnow htold hpause =>
    rw [attempts_paused hpause, attempts_told htold, attempts_looked hnow, attempts_tried hattempt,
      attempts_looked hhead]
    exact hone hn hspent hhead hbefore _
  | again hhead hbefore hattempt hnow htold hpause _ ih =>
    have hround := Retried.intro hhead hbefore hattempt hnow htold hpause
    refine ih ?_ (h.noted.lt_mostAttempts hnoted hbegan hspent hhead hbefore)
      (h.noted.spent_of_retried hnoted hbegan hspent hround)
    rw [attempts_paused hpause, attempts_told htold, attempts_looked hnow, attempts_tried hattempt,
      attempts_looked hhead, List.length_append, hn]
    rfl

/-- Rounds that there is no time for make no difference. -/
theorem Advancing.rounds_succ (h : Advancing clock plan time)
    (hlasts : Lasts plan limit interval) (hbegan : value began = start) {fuel : Nat}
    {last : Option Retryable} {s : σ} (hfuel : mostAttempts limit interval < fuel + n)
    (hroom : n ≤ mostAttempts limit interval) (hspent : Spent limit interval start n (time s)) :
    (rounds clock plan began (fuel + 1) n last).runFrom s =
      (rounds clock plan began fuel n last).runFrom s := by
  induction fuel generalizing n last s with
  | zero => omega
  | succ fuel ih =>
    refine rounds_congr fun e s' hround => ?_
    have hnext := h.spent_of_retried hlasts hbegan hspent hround
    obtain ⟨hhead, hbefore, -⟩ := hround
    exact ih (by omega) (h.lt_mostAttempts hlasts hbegan hspent hhead hbefore) hnext

/-- Where more rounds are allowed than there is time for, none is missing at the end.  The induction
is on the rounds allowed: those that are left and those behind are more than the most. -/
theorem Advancing.raised_of_rounds (h : Advancing clock plan time)
    (hlasts : Lasts plan limit interval) (hbegan : value began = start) {fuel : Nat}
    {last : Option Retryable} {s : σ} {f : Failure}
    (hfuel : mostAttempts limit interval < fuel + n) (hroom : n ≤ mostAttempts limit interval)
    (hspent : Spent limit interval start n (time s))
    (hfailed : ((rounds clock plan began fuel n last).runFrom s).1 = .error f) :
    Raised clock plan f := by
  induction fuel generalizing n last s with
  | zero => omega
  | succ fuel ih =>
    rcases rounds_cases clock plan began n last s with
      ⟨ending, s', hstopped, hrun⟩ | ⟨e, s', hretried, hrun⟩
    · rw [hrun fuel] at hfailed
      subst hfailed
      exact hstopped.raised
    · rw [hrun fuel] at hfailed
      have hnext := h.spent_of_retried hlasts hbegan hspent hretried
      obtain ⟨hhead, hbefore, -⟩ := hretried
      exact ih (by omega) (h.lt_mostAttempts hlasts hbegan hspent hhead hbefore) hnext hfailed

theorem Advancing.raised_of_poll (h : Advancing clock plan time)
    (hlasts : Lasts plan limit interval) {fuel : Nat} (hfuel : mostAttempts limit interval < fuel)
    {s : σ} {f : Failure} (hfailed : ((poll clock plan fuel).runFrom s).1 = .error f) :
    Raised clock plan f := by
  obtain ⟨shown, hshown, -, hle⟩ := h.now s
  unfold poll at hfailed
  rw [Action.runFrom_bind, Action.runFrom_always] at hfailed
  exact h.raised_of_rounds hlasts hshown hfuel (Nat.zero_le _) ⟨hle, .inl rfl⟩ hfailed

theorem Advancing.poll_eq (h : Advancing clock plan time) (hlasts : Lasts plan limit interval)
    {fuel : Nat} (hfuel : mostAttempts limit interval < fuel) (s : σ) :
    (poll clock plan fuel).runFrom s =
      (poll clock plan (mostAttempts limit interval + 1)).runFrom s := by
  obtain ⟨shown, hshown, -, hle⟩ := h.now s
  induction fuel, hfuel using Nat.le_induction with
  | base => rfl
  | succ fuel hfuel ih =>
    rw [← ih]
    unfold poll
    simp only [Action.runFrom_bind, Action.runFrom_always]
    exact h.rounds_succ hlasts hshown hfuel (Nat.zero_le _) ⟨hle, .inl rfl⟩

/-! ## Where nothing but sleeping takes time -/

theorem Prompt.advancing (h : Prompt clock plan time) : Advancing clock plan time where
  now s := ⟨time s, (h.now s).1, le_rfl, (h.now s).2.ge⟩
  sleep hwait hpos hrun := (h.sleep hwait hpos hrun).ge
  attempt s := (h.attempt s).ge
  onRetry n elapsed e s := (h.onRetry n elapsed e s).ge

/-- No sleep goes beyond the deadline. -/
theorem Prompt.le_of_retried (h : Prompt clock plan time) (hlasts : Lasts plan limit interval)
    (hbegan : value began = start) {s s' : σ} {e : Retryable} (hle : time s - start ≤ limit)
    (hround : Retried clock plan began n s e s') : time s' - start ≤ limit := by
  obtain ⟨hhead, -, hattempt, hnow, htold, hpause⟩ := hround
  rename_i s₁ s₂ s₃ s₄ head now
  have h₁ := (h.now s).2
  have h₂ := h.attempt s₁
  obtain ⟨hshown, h₃⟩ := h.now s₂
  have h₄ := h.onRetry (n + 1) (now - began) e s₃
  rw [hhead] at h₁
  rw [hattempt] at h₂
  rw [hnow] at hshown h₃
  rw [htold] at h₄
  dsimp only at h₁ h₂ hshown h₃ h₄
  obtain ⟨wait, hwait, hwithin, -⟩ := value_wait hlasts (ExtendedTime.value_sub hshown hbegan)
  rcases pause_cases hpause with ⟨-, rfl⟩ | ⟨_, rfl, hpos, hsleep⟩
  · linarith
  · have h₅ := h.sleep hwait ((ExtendedTime.zero_lt_iff hwait).mp hpos) hsleep
    linarith

/-- The induction follows the rounds, none of which begins after the deadline. -/
theorem Prompt.value_elapsed (h : Prompt clock plan time) (hlasts : Lasts plan limit interval)
    (hbegan : value began = start) {last : Option Retryable} {s s' : σ}
    {ending : Except Failure (PollResult τ)} {result : PollResult τ}
    (hcourse : Course clock plan began n last s ending s') (hle : time s - start ≤ limit)
    (hending : ending = .ok result) (hfailed : result.passed = false) :
    value result.elapsed = limit := by
  induction hcourse with
  | @expired n last s s₁ head hhead hover =>
    cases hending
    have hshown := (h.now s).1
    rw [hhead] at hshown
    have helapsed := ExtendedTime.value_sub hshown hbegan
    have hpassed := hover.2
    rw [ExtendedTime.le_iff, hlasts.deadline_eq, helapsed] at hpassed
    exact helapsed.trans
      (congrArg _ (le_antisymm hle (EReal.coe_le_coe_iff.mp hpassed)))
  | passed => cases hending; cases hfailed
  | again hhead hbefore hattempt hnow htold hpause _ ih =>
    exact ih (h.le_of_retried hlasts hbegan hle (.intro hhead hbefore hattempt hnow htold hpause))
      hending
  | _ => cases hending

end Rounds

/-- A polling ends, whatever its attempts come to.  What a file asks for as an interval is never
zero once it is converted, so that no more attempts are made than intervals are begun before the
deadline.  Where more rounds than that are allowed, it comes to a result unless one of its parts
raises a failure, and it makes no difference how many more they are.  Where nothing but sleeping
takes time, a polling that failed took as long as its deadline, to the moment. -/
theorem poll_within_mostAttempts {data : Data} {d : Definition}
    (hdata : Conversion.definition data = .ok d)
    (hinterval : plan.interval = Time.ofSeconds d.pollingInterval)
    (hdeadline : value plan.deadline = limit) (hlimit : 0 ≤ limit)
    (hadvancing : Advancing clock plan time) :
    0.0 < d.pollingInterval ∧
    (∀ fuel s, (attempts (transcript clock plan fuel s)).length ≤
      mostAttempts limit (Double.value d.pollingInterval)) ∧
    (∀ fuel s, mostAttempts limit (Double.value d.pollingInterval) < fuel →
      (poll clock plan fuel).runFrom s =
        (poll clock plan (mostAttempts limit (Double.value d.pollingInterval) + 1)).runFrom s) ∧
    (∀ fuel s, mostAttempts limit (Double.value d.pollingInterval) < fuel →
      (∃ result, ((poll clock plan fuel).runFrom s).1 = .ok result) ∨
        ∃ f, ((poll clock plan fuel).runFrom s).1 = .error f ∧ Raised clock plan f) ∧
    (Prompt clock plan time → ∀ fuel s s' result,
      (poll clock plan fuel).runFrom s = (.ok result, s') → result.passed = false →
        value result.elapsed = limit) := by
  have hpos : 0.0 < d.pollingInterval :=
    Definition.pollingInterval_pos (Conversion.interval_of_definition hdata)
  have hvalue : value plan.interval = Double.value d.pollingInterval := by
    rw [hinterval]
    exact ExtendedTime.value_ofSeconds _ (Double.isNaN_of_pos hpos)
  have hlasts : Lasts plan limit (Double.value d.pollingInterval) :=
    ⟨hdeadline, hvalue, Double.value_pos hpos⟩
  refine ⟨hpos, fun fuel s => ?_, fun fuel s hfuel => hadvancing.poll_eq hlasts hfuel s,
    fun fuel s hfuel => ?_, fun hprompt fuel s s' result hrun hfailed => ?_⟩
  · obtain ⟨shown, hshown, -, hle⟩ := hadvancing.now s
    rcases Nat.eq_zero_or_pos fuel with rfl | hfuel
    · exact Nat.zero_le _
    · exact hadvancing.length_attempts_le hlasts hshown (course_noted clock plan hfuel s) rfl
        (Nat.zero_le _) ⟨hle, .inl rfl⟩
  · cases hending : ((poll clock plan fuel).runFrom s).1 with
    | ok result => exact .inl ⟨result, rfl⟩
    | error f => exact .inr ⟨f, rfl, hadvancing.raised_of_poll hlasts hfuel hending⟩
  · have hfuel : 0 < fuel := by
      refine Nat.pos_of_ne_zero fun hzero => ?_
      subst hzero
      cases hrun
    obtain ⟨hshown, hstart⟩ := hprompt.now s
    refine hprompt.value_elapsed hlasts hshown (course_poll hfuel hrun) ?_ rfl hfailed
    rw [hstart, sub_self]
    exact hlimit

/-! ### A deadline of two quarters of a second, without rounding -/

open Classical in
/-- Exact spans of time.  One is given in doubles if a double has its value. -/
noncomputable instance timeEReal : Time EReal where
  decLt := Classical.decRel _
  decLe := Classical.decRel _
  ofSeconds := Double.value
  toSeconds t := if h : ∃ x, Double.value x = t then h.choose else 0.0

instance extendedTimeEReal : ExtendedTime EReal where
  value := id
  value_zero := rfl
  value_sub := by
    rintro _ _ x y rfl rfl
    exact (EReal.coe_sub x y).symm
  value_ofSeconds _ _ := rfl
  lt_iff := Iff.rfl
  le_iff := Iff.rfl

noncomputable def exactClock : Clock ℝ EReal where
  now := fun t => ((t : EReal), t)
  sleep wait := modify (· + wait.toReal)

noncomputable def exactPlan : Plan ℝ EReal where
  attempt := throw (.mismatch "not yet" none none)
  deadline := Time.ofSeconds (0.5 : Float)
  interval := Time.ofSeconds (0.25 : Float)

theorem prompt_exact : Prompt exactClock exactPlan id where
  now _ := ⟨rfl, rfl⟩
  sleep := by
    rintro _ x s s' rfl - hrun
    cases hrun
    rfl
  attempt _ := rfl
  onRetry _ _ _ _ := rfl

theorem value_half : value exactPlan.deadline = (1 / 2 : ℝ) := by
  have hparts : Double.hasParts 0.5 (2 ^ 52) (-53) = true := by decide +kernel
  refine (Double.value_eq hparts).trans ?_
  norm_num

theorem value_quarter : Double.value 0.25 = ((1 / 4 : ℝ) : EReal) := by
  have hparts : Double.hasParts 0.25 (2 ^ 52) (-54) = true := by decide +kernel
  rw [Double.value_eq hparts]
  norm_num

def notYet : Retryable := ⟨.mismatch, "not yet", none, none⟩

section Quarters

variable {t : ℝ}

/-- A whole quarter is slept where there is time for it. -/
theorem pause_exact (hroom : t + 1 / 4 ≤ 1 / 2) :
    (pause exactClock exactPlan ((t : EReal) - (0 : ℝ))).runFrom t = (.ok (), t + 1 / 4) := by
  have hleft : exactPlan.deadline - ((t : EReal) - (0 : ℝ)) = (1 / 2 - t : ℝ) := by
    rw [← EReal.coe_sub, sub_zero]
    exact ExtendedTime.value_sub value_half rfl
  have hwait : Time.least exactPlan.interval (exactPlan.deadline - ((t : EReal) - (0 : ℝ))) =
      (1 / 4 : ℝ) := by
    rw [hleft]
    refine (ExtendedTime.value_least (exactPlan.interval) _).trans ?_
    refine (min_eq_left ?_).trans value_quarter
    refine value_quarter.trans_le (EReal.coe_le_coe_iff.mpr ?_)
    linarith
  rw [pause_eq, hwait, if_pos (EReal.coe_pos.mpr (by norm_num))]
  rfl

theorem rounds_exact {fuel : Nat} {last : Option Retryable} (hroom : t + 1 / 4 ≤ 1 / 2) :
    (rounds exactClock exactPlan (0 : ℝ) (fuel + 1) n last).runFrom t =
      (rounds exactClock exactPlan (0 : ℝ) fuel (n + 1) (some notYet)).runFrom (t + 1 / 4) := by
  have hbefore : ¬(0 < n ∧ exactPlan.deadline ≤ (t : EReal) - (0 : ℝ)) := by
    rintro ⟨-, hover⟩
    rw [← EReal.coe_sub, sub_zero] at hover
    have hle := EReal.coe_le_coe_iff.mp (value_half.symm.trans_le hover)
    linarith
  rw [rounds, Action.runFrom_bind, Action.runFrom_always]
  refine (congrArg (Action.runFrom · t) (if_neg hbefore)).trans ?_
  rw [Action.runFrom_bind, Action.runFrom_attempt]
  show ((do
    pause exactClock exactPlan ((t : EReal) - (0 : ℝ))
    rounds exactClock exactPlan (0 : ℝ) fuel (n + 1) (some notYet) :
      Action ℝ (PollResult EReal))).runFrom t = _
  rw [Action.runFrom_bind, pause_exact hroom]

end Quarters

theorem rounds_exact_expired {fuel : Nat} {last : Option Retryable} :
    (rounds exactClock exactPlan (0 : ℝ) (fuel + 1) (n + 1) last).runFrom (1 / 2 : ℝ) =
      (.ok ⟨false, n + 1, ((1 / 2 : ℝ) : EReal) - (0 : ℝ), last, exactPlan.description,
        exactPlan.deadline⟩, 1 / 2) := by
  have hover : 0 < n + 1 ∧ exactPlan.deadline ≤ ((1 / 2 : ℝ) : EReal) - (0 : ℝ) := by
    refine ⟨Nat.succ_pos n, ?_⟩
    rw [← EReal.coe_sub, sub_zero]
    exact value_half.le
  rw [rounds, Action.runFrom_bind, Action.runFrom_always]
  exact congrArg (Action.runFrom · (1 / 2)) (if_pos hover)

/-- Two attempts, each with a quarter behind it, and then half a second has passed. -/
theorem poll_exact : ∃ result, (poll exactClock exactPlan 3).runFrom 0 = (.ok result, 1 / 2) ∧
    result.passed = false ∧ result.iterations = 2 := by
  have hstart : (poll exactClock exactPlan 3).runFrom 0 =
      (rounds exactClock exactPlan (0 : ℝ) 3 0 none).runFrom 0 := by
    rw [poll, Action.runFrom_bind, Action.runFrom_always]
    rfl
  have hhalf : (0 + 1 / 4 + 1 / 4 : ℝ) = 1 / 2 := by norm_num
  rw [hstart, rounds_exact (by norm_num), rounds_exact (by norm_num), hhalf, rounds_exact_expired]
  exact ⟨_, rfl, rfl, rfl⟩

theorem quarters_bounded :
    ∃ d, Conversion.definition (.record [(.text "interval", .float 0.25)]) = .ok d ∧
      exactPlan.interval = Time.ofSeconds d.pollingInterval ∧
      (∀ fuel s, (attempts (transcript exactClock exactPlan fuel s)).length ≤ 2) ∧
      (∀ fuel s, 2 < fuel →
        ∃ result, ((poll exactClock exactPlan fuel).runFrom s).1 = .ok result) ∧
      (∀ fuel s s' result, (poll exactClock exactPlan fuel).runFrom s = (.ok result, s') →
        result.passed = false → value result.elapsed = (1 / 2 : ℝ)) ∧
      ∃ result, (poll exactClock exactPlan 3).runFrom 0 = (.ok result, 1 / 2) ∧
        result.passed = false ∧ result.iterations = 2 ∧ value result.elapsed = (1 / 2 : ℝ) := by
  have hdata : Conversion.definition (.record [(.text "interval", .float 0.25)]) =
      .ok { interval := some 0.25 } := rfl
  have hzero : ((0.25 : Float) == 0.0) = false := by decide +kernel
  have hinterval : ({ interval := some 0.25 } : Definition).pollingInterval = 0.25 := by
    unfold Definition.pollingInterval
    dsimp only
    rw [hzero]
    rfl
  have hmost : mostAttempts (1 / 2) (Double.value 0.25) = 2 := by
    unfold mostAttempts
    rw [value_quarter, ← EReal.coe_div, EReal.toReal_coe]
    norm_num
  obtain ⟨-, hattempts, -, hends, helapsed⟩ := poll_within_mostAttempts hdata
    (congrArg Time.ofSeconds hinterval.symm) value_half (by norm_num) prompt_exact.advancing
  rw [hinterval, hmost] at hattempts hends
  -- the attempts fail with what may be tried again, and nothing else can fail
  have hquiet : ∀ f, ¬Raised exactClock exactPlan f := by
    rintro f (⟨hattempt, hf⟩ | htold | hsleep)
    · cases hattempt
      cases hf
    · cases htold
    · cases hsleep
  obtain ⟨result, hrun, hfailed, htwice⟩ := poll_exact
  refine ⟨_, hdata, congrArg Time.ofSeconds hinterval.symm, hattempts, fun fuel s hfuel => ?_,
    helapsed prompt_exact, result, hrun, hfailed, htwice,
    helapsed prompt_exact 3 0 _ result hrun hfailed⟩
  rcases hends fuel s hfuel with hresult | ⟨f, -, hraised⟩
  · exact hresult
  · exact absurd hraised (hquiet f)

end Polling
end TelemetryCheck
