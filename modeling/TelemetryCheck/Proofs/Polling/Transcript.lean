import TelemetryCheck.Proofs.Polling.Rounds
import TelemetryCheck.Proofs.Refinement
import TelemetryCheck.Proofs.Time.Comparison

/-!
# The transcript of a polling

Everything that happens in a polling is noted in order: each look at the clock, each attempt, each
retry that is told of, each sleep.  The transcript shows how often was tried and with what outcome,
that nothing in it happened without its reason right before it, and that the polling came to the end
that its last attempt calls for.
-/

namespace TelemetryCheck
namespace Polling

inductive Moment (τ : Type)
  | looked (time : τ)
  | tried (outcome : Except Failure Unit)
  | told (iteration : Nat) (elapsed : τ) (error : Retryable)
  | slept (time : τ)

structure Noted (σ τ : Type) where
  state : σ
  moments : List (Moment τ) := []

section Noting

variable {σ τ α : Type}

def noting (note : Except Failure α → Moment τ) (a : Action σ α) : Action (Noted σ τ) α :=
  ExceptT.mk fun s =>
    let (ending, after) := a.runFrom s.state
    (ending, ⟨after, s.moments ++ [note ending]⟩)

def notedClock (clock : Clock σ τ) : Clock (Noted σ τ) τ where
  now := fun s =>
    let (time, after) := clock.now.run s.state
    (time, ⟨after, s.moments ++ [.looked time]⟩)
  sleep time := noting (fun _ => .slept time) (clock.sleep time)

def Plan.noted (plan : Plan σ τ) : Plan (Noted σ τ) τ where
  attempt := noting .tried plan.attempt
  deadline := plan.deadline
  interval := plan.interval
  description := plan.description
  onRetry n elapsed e := noting (fun _ => .told n elapsed e) (plan.onRetry n elapsed e)

def transcript [Time τ] (clock : Clock σ τ) (plan : Plan σ τ) (fuel : Nat) (s : σ) :
    List (Moment τ) :=
  ((poll (notedClock clock) plan.noted fuel).runFrom ⟨s, []⟩).2.moments

theorem refines_noting (note : Except Failure α → Moment τ) (a : Action σ α) :
    Action.Refines Noted.state (noting note a) a := fun _ => rfl

/-- Noting changes nothing. -/
theorem refines_noted_poll [Time τ] (clock : Clock σ τ) (plan : Plan σ τ) (fuel : Nat) :
    Action.Refines Noted.state (poll (notedClock clock) plan.noted fuel)
      (poll clock plan fuel) := by
  have hclock : (notedClock clock).Refines Noted.state clock :=
    ⟨fun _ => rfl, fun _ => refines_noting _ _⟩
  have hplan : plan.noted.Refines Noted.state plan :=
    ⟨refines_noting _ _, fun _ _ _ => refines_noting _ _, rfl, rfl, rfl⟩
  exact refines_poll hclock hplan fuel

variable {clock : Clock σ τ} {plan : Plan σ τ} {s s' : Noted σ τ} {now : τ}

theorem moments_now (h : (notedClock clock).now.run s = (now, s')) :
    now = (clock.now.run s.state).1 ∧ s'.moments = s.moments ++ [.looked now] := by
  cases h
  exact ⟨rfl, rfl⟩

theorem moments_noting {note : Except Failure α → Moment τ} {a : Action σ α}
    {ending : Except Failure α} (h : (noting note a).runFrom s = (ending, s')) :
    ending = (a.runFrom s.state).1 ∧ s'.moments = s.moments ++ [note ending] := by
  cases h
  exact ⟨rfl, rfl⟩

theorem moments_told {n : Nat} {elapsed : τ} {e : Retryable} {ending : Except Failure Unit}
    (h : (plan.noted.onRetry n elapsed e).runFrom s = (ending, s')) :
    ending = ((plan.onRetry n elapsed e).runFrom s.state).1 ∧
      s'.moments = s.moments ++ [.told n elapsed e] := by
  cases h
  exact ⟨rfl, rfl⟩

theorem moments_slept {wait : τ} {ending : Except Failure Unit}
    (h : ((notedClock clock).sleep wait).runFrom s = (ending, s')) :
    ending = ((clock.sleep wait).runFrom s.state).1 ∧
      s'.moments = s.moments ++ [.slept wait] := by
  cases h
  exact ⟨rfl, rfl⟩

end Noting

variable {σ τ : Type}

/-! ## Reading a transcript -/

def attempts (log : List (Moment τ)) : List (Except Failure Unit) :=
  log.filterMap fun
    | .tried outcome => some outcome
    | _ => none

def retries (log : List (Moment τ)) : List (Nat × Retryable) :=
  log.filterMap fun
    | .told iteration _ error => some (iteration, error)
    | _ => none

def setbacks (log : List (Moment τ)) : List Retryable :=
  (attempts log).filterMap fun
    | .error (.retryable e) => some e
    | _ => none

def setback (e : Retryable) : Except Failure Unit := .error (.retryable e)

def numbered (errors : List Retryable) : List (Nat × Retryable) :=
  errors.mapIdx fun i e => (i + 1, e)

def Each (P : List (Moment τ) → Moment τ → Prop) (log : List (Moment τ)) : Prop :=
  ∀ before m after, log = before ++ m :: after → P before m

/-- What must have come right before a moment. -/
def Justified [Time τ] (plan : Plan σ τ) (start : τ) (before : List (Moment τ)) :
    Moment τ → Prop
  | .looked _ => True
  -- the clock was looked at, and the deadline had not passed unless this is the first attempt
  | .tried _ => ∃ earlier head, before = earlier ++ [.looked head] ∧
      (attempts before ≠ [] → head - start < plan.deadline)
  -- the attempt failed with this error, and the clock was looked at
  | .told n elapsed e => ∃ earlier now, before = earlier ++ [.tried (setback e), .looked now] ∧
      n = (attempts before).length ∧ elapsed = now - start
  -- a retry was told of, and the sleep stays within the interval and what is left
  | .slept wait => ∃ earlier n elapsed e, before = earlier ++ [.told n elapsed e] ∧
      0 < wait ∧ wait ≤ plan.interval ∧ wait ≤ plan.deadline - elapsed

/-- What a polling comes to by the outcome of its last attempt.  The attempts before it failed with
the errors `earlier`. -/
def Concluded [Time τ] (plan : Plan σ τ) (start : τ) (log : List (Moment τ))
    (earlier : List Retryable) (ending : Except Failure (PollResult τ)) :
    Except Failure Unit → Prop
  | .ok () => ∃ before now, log = before ++ [.tried (.ok ()), .looked now] ∧
      ending = .ok ⟨true, earlier.length + 1, now - start, earlier.getLast?, plan.description,
        plan.deadline⟩
  | .error (.retryable e) => ∃ before head, log = before ++ [.looked head] ∧
      plan.deadline ≤ head - start ∧
      ending = .ok ⟨false, earlier.length + 1, head - start, some e, plan.description,
        plan.deadline⟩
  | .error f => ∃ before, log = before ++ [.tried (.error f)] ∧ ending = .error f

/-- A polling that began at `start`, made attempts of which all but the last failed with the errors
`earlier`, and came to an end. -/
structure IsTranscript [Time τ] (plan : Plan σ τ) (start : τ) (earlier : List Retryable)
    (outcome : Except Failure Unit) (log : List (Moment τ))
    (ending : Except Failure (PollResult τ)) : Prop where
  begun : ∃ rest, log = .looked start :: rest
  attempts_eq : attempts log = earlier.map setback ++ [outcome]
  retries_eq : retries log = numbered (setbacks log)
  justified : Each (Justified plan start) log
  concluded : Concluded plan start log earlier ending outcome

/-! ## One moment more -/

section Extending

variable {log : List (Moment τ)} {m : Moment τ} {P : List (Moment τ) → Moment τ → Prop}

theorem attempts_append (log more : List (Moment τ)) :
    attempts (log ++ more) = attempts log ++ attempts more :=
  List.filterMap_append

theorem retries_append (log more : List (Moment τ)) :
    retries (log ++ more) = retries log ++ retries more :=
  List.filterMap_append

theorem setbacks_of_attempts {errors : List Retryable} {last : List (Except Failure Unit)}
    (h : attempts log = errors.map setback ++ last) :
    setbacks log = errors ++ last.filterMap fun
      | .error (.retryable e) => some e
      | _ => none := by
  unfold setbacks
  rw [h, List.filterMap_append, List.filterMap_map]
  congr 1
  exact List.filterMap_some

theorem numbered_append (errors : List Retryable) (e : Retryable) :
    numbered (errors ++ [e]) = numbered errors ++ [(errors.length + 1, e)] := by
  simp only [numbered, List.mapIdx_append, List.mapIdx_cons, List.mapIdx_nil, Nat.zero_add]

section Noted

variable {clock : Clock σ τ} {plan : Plan σ τ} {s s' : Noted σ τ}

theorem attempts_looked {shown : τ} (h : (notedClock clock).now.run s = (shown, s')) :
    attempts s'.moments = attempts s.moments := by
  rw [(moments_now h).2, attempts_append]
  exact List.append_nil _

theorem attempts_tried {outcome : Except Failure Unit}
    (h : plan.noted.attempt.runFrom s = (outcome, s')) :
    attempts s'.moments = attempts s.moments ++ [outcome] := by
  rw [(moments_noting h).2, attempts_append]
  rfl

theorem attempts_told {n : Nat} {elapsed : τ} {e : Retryable} {ending : Except Failure Unit}
    (h : (plan.noted.onRetry n elapsed e).runFrom s = (ending, s')) :
    attempts s'.moments = attempts s.moments := by
  rw [(moments_told h).2, attempts_append]
  exact List.append_nil _

end Noted

theorem each_nil : Each P [] := fun before m after h => by simp at h

theorem Each.concat (h : Each P log) (hm : P log m) : Each P (log ++ [m]) := by
  intro before x after heq
  cases List.eq_nil_or_concat after with
  | inl hnil =>
    subst hnil
    obtain ⟨rfl, hx⟩ := List.append_inj' heq rfl
    cases hx
    exact hm
  | inr hconcat =>
    obtain ⟨rest, y, rfl⟩ := hconcat
    have hlog : log ++ [m] = (before ++ x :: rest) ++ [y] := by
      rw [heq, List.concat_eq_append, List.append_assoc, List.cons_append]
    exact h before x rest (List.append_inj' hlog rfl).1

theorem Each.looked [Time τ] {plan : Plan σ τ} {start : τ} (h : Each (Justified plan start) log)
    (now : τ) : Each (Justified plan start) (log ++ [.looked now]) := by
  refine h.concat ?_
  trivial

end Extending

/-! ## The invariant at the head of a round -/

variable [Time τ] {clock : Clock σ τ} {plan : Plan σ τ} {start head now : τ}

/-- The transcript at the head of a round, after attempts that failed with these errors. -/
structure Standing (plan : Plan σ τ) (start : τ) (errors : List Retryable)
    (log : List (Moment τ)) : Prop where
  begun : ∃ rest, log = .looked start :: rest
  attempts_eq : attempts log = errors.map setback
  retries_eq : retries log = numbered errors
  justified : Each (Justified plan start) log

theorem standing_start (plan : Plan σ τ) (start : τ) :
    Standing plan start [] [.looked start] := by
  exact ⟨⟨[], rfl⟩, rfl, rfl, each_nil.looked start⟩

namespace Standing

variable {errors : List Retryable} {log : List (Moment τ)}

theorem begun_append (h : Standing plan start errors log) (more : List (Moment τ)) :
    ∃ rest, log ++ more = .looked start :: rest := by
  obtain ⟨rest, rfl⟩ := h.begun
  exact ⟨rest ++ more, rfl⟩

theorem tried (h : Standing plan start errors log)
    (hhead : errors ≠ [] → head - start < plan.deadline) (outcome : Except Failure Unit) :
    Each (Justified plan start) (log ++ [.looked head] ++ [.tried outcome]) := by
  refine (h.justified.looked head).concat ⟨log, head, rfl, fun hattempts => hhead ?_⟩
  intro herrors
  refine hattempts ?_
  rw [attempts_append, h.attempts_eq, herrors]
  rfl

/-- A round in which the attempt failed and a retry was told of. -/
theorem again (h : Standing plan start errors log)
    (hhead : errors ≠ [] → head - start < plan.deadline) (now : τ) (e : Retryable) :
    Standing plan start (errors ++ [e]) (log ++ [.looked head] ++ [.tried (setback e)] ++
      [.looked now] ++ [.told (errors.length + 1) (now - start) e]) := by
  constructor
  · simp only [List.append_assoc]
    exact h.begun_append _
  · simp only [attempts_append, h.attempts_eq, List.map_append]
    simp [attempts]
  · simp only [retries_append, h.retries_eq, numbered_append]
    simp [retries]
  · refine ((h.tried hhead _).looked now).concat ⟨log ++ [.looked head], now, ?_, ?_, rfl⟩
    · rw [List.append_assoc]
      rfl
    · simp only [attempts_append, h.attempts_eq]
      simp [attempts]

theorem slept (h : Standing plan start errors log) {wait : τ}
    (hwait : Justified plan start log (.slept wait)) :
    Standing plan start errors (log ++ [.slept wait]) := by
  refine ⟨h.begun_append _, ?_, ?_, h.justified.concat hwait⟩
  · rw [attempts_append, h.attempts_eq]
    exact List.append_nil _
  · rw [retries_append, h.retries_eq]
    exact List.append_nil _

end Standing

/-! ## The end of a polling -/

section Ending

variable {errors : List Retryable} {log : List (Moment τ)}

theorem isTranscript_passed (h : Standing plan start errors log)
    (hhead : errors ≠ [] → head - start < plan.deadline) (now : τ) :
    IsTranscript plan start errors (.ok ())
      (log ++ [.looked head] ++ [.tried (.ok ())] ++ [.looked now])
      (.ok ⟨true, errors.length + 1, now - start, errors.getLast?, plan.description,
        plan.deadline⟩) := by
  have hattempts : attempts (log ++ [.looked head] ++ [.tried (.ok ())] ++ [.looked now]) =
      errors.map setback ++ [.ok ()] := by
    simp only [attempts_append, h.attempts_eq]
    simp [attempts]
  constructor
  · simp only [List.append_assoc]
    exact h.begun_append _
  · exact hattempts
  · rw [setbacks_of_attempts hattempts]
    simp only [retries_append, h.retries_eq]
    simp [retries]
  · exact (h.tried hhead _).looked now
  · exact ⟨log ++ [.looked head], now, by rw [List.append_assoc]; rfl, rfl⟩

theorem isTranscript_broken (h : Standing plan start errors log)
    (hhead : errors ≠ [] → head - start < plan.deadline) {f : Failure}
    (hf : f.isRetryable = false) :
    IsTranscript plan start errors (.error f) (log ++ [.looked head] ++ [.tried (.error f)])
      (.error f) := by
  have hattempts : attempts (log ++ [.looked head] ++ [.tried (.error f)]) =
      errors.map setback ++ [.error f] := by
    simp only [attempts_append, h.attempts_eq]
    simp [attempts]
  constructor
  · simp only [List.append_assoc]
    exact h.begun_append _
  · exact hattempts
  · rw [setbacks_of_attempts hattempts]
    simp only [retries_append, h.retries_eq]
    cases f with
    | retryable e => cases hf
    | _ => simp [retries]
  · exact h.tried hhead _
  · cases f with
    | retryable e => cases hf
    | _ => exact ⟨log ++ [.looked head], rfl, rfl⟩

theorem isTranscript_expired {e : Retryable} (h : Standing plan start (errors ++ [e]) log)
    (hover : plan.deadline ≤ head - start) :
    IsTranscript plan start errors (setback e) (log ++ [.looked head])
      (.ok ⟨false, errors.length + 1, head - start, some e, plan.description,
        plan.deadline⟩) := by
  have hattempts : attempts (log ++ [.looked head]) = errors.map setback ++ [setback e] := by
    rw [attempts_append, h.attempts_eq, List.map_append]
    exact List.append_nil _
  constructor
  · exact h.begun_append _
  · exact hattempts
  · rw [setbacks_of_attempts hattempts, retries_append, h.retries_eq]
    exact List.append_nil _
  · exact h.justified.looked head
  · exact ⟨log, head, rfl, hover, rfl⟩

end Ending

/-! ## From the course to the transcript -/

/-- What the clock shows and what is reckoned from it are numbers, and so are the deadline and the
interval. -/
structure Measured [ComparableTime τ] (clock : Clock σ τ) (plan : Plan σ τ) : Prop where
  deadline : ComparableTime.IsNumber plan.deadline
  interval : ComparableTime.IsNumber plan.interval
  elapsed : ∀ s s', ComparableTime.IsNumber ((clock.now.run s').1 - (clock.now.run s).1)
  remaining : ∀ s s',
    ComparableTime.IsNumber (plan.deadline - ((clock.now.run s').1 - (clock.now.run s).1))

/-- Sleeping and telling of a retry come to an end. -/
structure Undisturbed (clock : Clock σ τ) (plan : Plan σ τ) : Prop where
  sleep : ∀ wait s, ((clock.sleep wait).runFrom s).1 = .ok ()
  onRetry : ∀ n elapsed e s, ((plan.onRetry n elapsed e).runFrom s).1 = .ok ()

theorem moments_pause {s s' : Noted σ τ} {elapsed : τ} {ending : Except Failure Unit}
    (h : (pause (notedClock clock) plan.noted elapsed).runFrom s = (ending, s')) :
    (ending = .ok () ∧ s'.moments = s.moments) ∨
      0 < Time.least plan.interval (plan.deadline - elapsed) ∧
        ending = ((clock.sleep (Time.least plan.interval (plan.deadline - elapsed))).runFrom
          s.state).1 ∧
        s'.moments =
          s.moments ++ [.slept (Time.least plan.interval (plan.deadline - elapsed))] := by
  obtain ⟨hending, rfl⟩ | ⟨wait, rfl, hwait, hsleep⟩ := pause_cases h
  · exact .inl ⟨hending, rfl⟩
  · exact .inr ⟨hwait, moments_slept hsleep⟩

theorem attempts_paused {s s' : Noted σ τ} {elapsed : τ} {ending : Except Failure Unit}
    (h : (pause (notedClock clock) plan.noted elapsed).runFrom s = (ending, s')) :
    attempts s'.moments = attempts s.moments := by
  rcases moments_pause h with ⟨-, hmoments⟩ | ⟨-, -, hmoments⟩
  · rw [hmoments]
  · rw [hmoments, attempts_append]
    exact List.append_nil _

/-- The induction follows the rounds.  At the head of each round the transcript so far tells of the
attempts that failed and of nothing without its reason. -/
theorem isTranscript_of_course [ComparableTime τ] (hmeasured : Measured clock plan)
    (hquiet : Undisturbed clock plan) (hstart : ∃ s₀, start = (clock.now.run s₀).1) {n : Nat}
    {last : Option Retryable} {s s' : Noted σ τ} {ending : Except Failure (PollResult τ)}
    (h : Course (notedClock clock) plan.noted start n last s ending s')
    (hended : ending ≠ .error .unfinished) {errors : List Retryable}
    (hstanding : Standing plan start errors s.moments) (hn : n = errors.length)
    (hlast : last = errors.getLast?) :
    ∃ earlier outcome, IsTranscript plan start earlier outcome s'.moments ending := by
  have hbefore : ∀ {n : Nat} {errors : List Retryable} {s s₁ : Noted σ τ} {head : τ},
      n = errors.length → (notedClock clock).now.run s = (head, s₁) →
      ¬Expired plan.noted start n head → errors ≠ [] → head - start < plan.deadline := by
    intro n errors s s₁ head hn hhead hover herrors
    obtain ⟨s₀, hs₀⟩ := hstart
    obtain ⟨hread, -⟩ := moments_now hhead
    have helapsed : ComparableTime.IsNumber (head - start) := by
      rw [hread, hs₀]
      exact hmeasured.elapsed _ _
    refine ComparableTime.lt_of_not_le hmeasured.deadline helapsed fun hle => hover ⟨?_, hle⟩
    rw [hn]
    exact List.length_pos_iff.mpr herrors
  induction h generalizing errors with
  | cutOff _ => exact absurd rfl hended
  | @expired n last s s₁ head hhead hover =>
    obtain ⟨-, hmoments⟩ := moments_now hhead
    obtain ⟨hpos, hover⟩ := hover
    have herrors : errors ≠ [] := List.ne_nil_of_length_pos (hn ▸ hpos)
    obtain ⟨earlier, e, rfl⟩ : ∃ earlier e, errors = earlier ++ [e] :=
      ⟨_, _, (List.dropLast_concat_getLast herrors).symm⟩
    rw [List.getLast?_concat] at hlast
    rw [List.length_append] at hn
    subst hn hlast
    refine ⟨earlier, setback e, ?_⟩
    rw [hmoments]
    exact isTranscript_expired hstanding hover
  | @passed n last s s₁ s₂ s₃ head now hhead hover hattempt hnow =>
    obtain ⟨-, hm₁⟩ := moments_now hhead
    obtain ⟨-, hm₂⟩ := moments_noting hattempt
    obtain ⟨-, hm₃⟩ := moments_now hnow
    subst hn hlast
    refine ⟨errors, .ok (), ?_⟩
    rw [hm₃, hm₂, hm₁]
    exact isTranscript_passed hstanding (hbefore rfl hhead hover) now
  | @broken n last s s₁ s₂ head f hhead hover hattempt hf =>
    obtain ⟨-, hm₁⟩ := moments_now hhead
    obtain ⟨-, hm₂⟩ := moments_noting hattempt
    refine ⟨errors, .error f, ?_⟩
    rw [hm₂, hm₁]
    exact isTranscript_broken hstanding (hbefore hn hhead hover) hf
  | untold hhead hover hattempt hnow htold =>
    obtain ⟨hfailed, -⟩ := moments_told htold
    rw [hquiet.onRetry] at hfailed
    cases hfailed
  | roused hhead hover hattempt hnow htold hpause =>
    rcases moments_pause hpause with ⟨hfailed, -⟩ | ⟨-, hfailed, -⟩
    · cases hfailed
    · rw [hquiet.sleep] at hfailed
      cases hfailed
  | @again n last s s₁ s₂ s₃ s₄ s₅ s' head now e ending hhead hover hattempt hnow htold hpause _ ih =>
    obtain ⟨-, hm₁⟩ := moments_now hhead
    obtain ⟨-, hm₂⟩ := moments_noting hattempt
    obtain ⟨hread, hm₃⟩ := moments_now hnow
    obtain ⟨-, hm₄⟩ := moments_told htold
    subst hn
    have hround := hstanding.again (hbefore rfl hhead hover) now e
    refine ih hended (?_ : Standing plan start (errors ++ [e]) _) ?_ ?_
    · rcases moments_pause hpause with ⟨-, hm₅⟩ | ⟨hpos, -, hm₅⟩
      · rw [hm₅, hm₄, hm₃, hm₂, hm₁]
        exact hround
      · rw [hm₅, hm₄, hm₃, hm₂, hm₁]
        obtain ⟨s₀, hs₀⟩ := hstart
        have hremaining : ComparableTime.IsNumber (plan.deadline - (now - start)) := by
          rw [hread, hs₀]
          exact hmeasured.remaining _ _
        refine hround.slept ⟨_, _, _, _, rfl, hpos, ?_, ?_⟩
        · exact ComparableTime.least_le_left hmeasured.interval hremaining
        · exact ComparableTime.least_le_right hmeasured.interval hremaining
    · rw [List.length_append]
      rfl
    · exact List.getLast?_concat.symm

/-- The course that a transcript follows, from the first look at the clock on. -/
theorem course_noted (clock : Clock σ τ) (plan : Plan σ τ) {fuel : Nat} (hfuel : 0 < fuel)
    (s : σ) :
    Course (notedClock clock) plan.noted (clock.now.run s).1 0 none
      ⟨(clock.now.run s).2, [.looked (clock.now.run s).1]⟩ ((poll clock plan fuel).runFrom s).1
      ((poll (notedClock clock) plan.noted fuel).runFrom ⟨s, []⟩).2 := by
  have hnoted := refines_noted_poll clock plan fuel ⟨s, []⟩
  exact course_poll hfuel (Prod.ext (congrArg Prod.fst hnoted).symm rfl)

/-- A polling that ends is told in full by its transcript.  It makes at least one attempt, and all
but the last failed with errors that may be tried again; every such error is told of once, in order
and with its number; no attempt but the first is made unless the clock showed, right before it, that
the deadline had not passed; a sleep is positive and stays within the interval and within what is
left of the deadline; and the end is the one that the last attempt calls for. -/
theorem poll_transcript [ComparableTime τ] (clock : Clock σ τ) (plan : Plan σ τ) (fuel : Nat)
    (hmeasured : Measured clock plan) (hquiet : Undisturbed clock plan) {s s' : σ}
    {ending : Except Failure (PollResult τ)}
    (h : (poll clock plan fuel).runFrom s = (ending, s'))
    (hended : ending ≠ .error .unfinished) :
    ∃ start earlier outcome,
      IsTranscript plan start earlier outcome (transcript clock plan fuel s) ending := by
  have hfuel : 0 < fuel := by
    refine Nat.pos_of_ne_zero fun hzero => hended ?_
    subst hzero
    exact (congrArg Prod.fst h).symm
  have hcourse := course_noted clock plan hfuel s
  rw [h] at hcourse
  obtain ⟨earlier, outcome, htranscript⟩ := isTranscript_of_course hmeasured hquiet ⟨s, rfl⟩ hcourse
    hended (standing_start plan _) rfl rfl
  exact ⟨_, earlier, outcome, htranscript⟩

/-! ### A deadline that is reached in two sleeps, in doubles -/

def quarterClock : Clock (Fin 3) Float where
  now := fun slept =>
    (match slept with
      | 0 => 1000.0
      | 1 => 1000.25
      | 2 => 1000.5, slept)
  sleep _ := modify (· + 1)

def quarterPlan : Plan (Fin 3) Float where
  attempt := throw (.mismatch "not yet" none none)
  deadline := 0.5
  interval := 0.25

theorem quarters_told :
    Measured quarterClock quarterPlan ∧ Undisturbed quarterClock quarterPlan ∧
      ∃ result, ((poll quarterClock quarterPlan 5).runFrom 0).1 = .ok result ∧
        ∃ start earlier outcome, IsTranscript quarterPlan start earlier outcome
          (transcript quarterClock quarterPlan 5 0) (.ok result) := by
  have helapsed : ∀ s s', ((quarterClock.now.run s').1 - (quarterClock.now.run s).1).isNaN =
      false := by
    decide +kernel
  have hremaining : ∀ s s', (quarterPlan.deadline -
      ((quarterClock.now.run s').1 - (quarterClock.now.run s).1)).isNaN = false := by
    decide +kernel
  have hmeasured : Measured quarterClock quarterPlan :=
    ⟨show (0.5 : Float).isNaN = false by decide +kernel,
      show (0.25 : Float).isNaN = false by decide +kernel, helapsed, hremaining⟩
  have hquiet : Undisturbed quarterClock quarterPlan := ⟨fun _ _ => rfl, fun _ _ _ _ => rfl⟩
  have hended : (match ((poll quarterClock quarterPlan 5).runFrom 0).1 with
      | .ok result => result.iterations == 2
      | .error _ => false) = true := by
    decide +kernel
  cases hrun : (poll quarterClock quarterPlan 5).runFrom 0 with
  | mk ending after =>
    rw [hrun] at hended
    cases ending with
    | error f => cases hended
    | ok result =>
      exact ⟨hmeasured, hquiet, result, rfl,
        poll_transcript quarterClock quarterPlan 5 hmeasured hquiet hrun (fun h => nomatch h)⟩

end Polling
end TelemetryCheck
