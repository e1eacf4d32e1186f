import Mathlib.Data.Finset.Card
import Mathlib.Data.List.Nodup
import TelemetryCheck.Proofs.Conversion.Accepted

/-!
# Handing out ports

Whatever ports the system offers, and however often it offers the same ones again, what an allocator
takes is new every time.  One relation says what a call can come to.  An account of all calls so far
follows from it: which of the offers were used, and how many ports were taken from them.
-/

namespace TelemetryCheck
namespace PortAllocator

/-! ## Taking ports -/

/-- Either all that is offered was handed out before, or the first port that was not is found behind
ports that were. -/
theorem freePort_cases (handedOut offers : List Nat) :
    ((∀ p ∈ offers, p ∈ handedOut) ∧ freePort handedOut offers = (none, [])) ∨
      ∃ skipped port rest, offers = skipped ++ port :: rest ∧ (∀ p ∈ skipped, p ∈ handedOut) ∧
        port ∉ handedOut ∧ freePort handedOut offers = (some port, rest) := by
  induction offers with
  | nil => exact .inl ⟨List.forall_mem_nil _, rfl⟩
  | cons port offers ih =>
    unfold freePort
    by_cases hport : port ∈ handedOut
    · rw [if_pos (List.contains_iff_mem.mpr hport)]
      rcases ih with ⟨hall, hnone⟩ | ⟨skipped, next, rest, rfl, hskipped, hnext, hsome⟩
      · exact .inl ⟨List.forall_mem_cons.mpr ⟨hport, hall⟩, hnone⟩
      · exact .inr ⟨port :: skipped, next, rest, rfl,
          List.forall_mem_cons.mpr ⟨hport, hskipped⟩, hnext, hsome⟩
    · rw [if_neg fun h => hport (List.contains_iff_mem.mp h)]
      exact .inr ⟨[], port, offers, rfl, List.forall_mem_nil _, hport, rfl⟩

/-- The ports `taken` are new, `rest` is left of the offers, and what was used of them is what was
taken or had been handed out before.  Fewer than asked for are taken only where nothing is left. -/
structure Taken (handedOut : List Nat) (n : Nat) (offers taken rest : List Nat) : Prop where
  length_le : taken.length ≤ n
  nodup : taken.Nodup
  fresh : ∀ p ∈ taken, p ∉ handedOut
  used : ∃ used, offers = used ++ rest ∧ (∀ p ∈ used, p ∈ taken ∨ p ∈ handedOut) ∧
    ∀ p ∈ taken, p ∈ used
  short : taken.length < n → rest = []

namespace Taken

variable {handedOut offers taken rest skipped : List Nat} {n port : Nat}

theorem nothing_asked (handedOut offers : List Nat) : Taken handedOut 0 offers [] offers where
  length_le := le_rfl
  nodup := List.nodup_nil
  fresh := List.forall_mem_nil _
  used := ⟨[], rfl, List.forall_mem_nil _, List.forall_mem_nil _⟩
  short h := absurd h (Nat.lt_irrefl 0)

theorem nothing_new (n : Nat) (h : ∀ p ∈ offers, p ∈ handedOut) :
    Taken handedOut n offers [] [] where
  length_le := Nat.zero_le n
  nodup := List.nodup_nil
  fresh := List.forall_mem_nil _
  used := ⟨offers, (List.append_nil _).symm, fun p hp => .inr (h p hp), List.forall_mem_nil _⟩
  short _ := rfl

/-- One port is taken, and then the others. -/
theorem cons (hskipped : ∀ p ∈ skipped, p ∈ handedOut) (hport : port ∉ handedOut)
    (h : Taken (port :: handedOut) n offers taken rest) :
    Taken handedOut (n + 1) (skipped ++ port :: offers) (port :: taken) rest where
  length_le := Nat.succ_le_succ h.length_le
  nodup := List.nodup_cons.mpr ⟨fun hp => h.fresh port hp List.mem_cons_self, h.nodup⟩
  fresh := List.forall_mem_cons.mpr
    ⟨hport, fun p hp hout => h.fresh p hp (List.mem_cons_of_mem _ hout)⟩
  used := by
    obtain ⟨used, rfl, hused, htaken⟩ := h.used
    refine ⟨skipped ++ port :: used, by simp, fun p hp => ?_, fun p hp => ?_⟩
    · rcases List.mem_append.mp hp with hp | hp
      · exact .inr (hskipped p hp)
      rcases List.mem_cons.mp hp with rfl | hp
      · exact .inl List.mem_cons_self
      · rw [List.mem_cons, or_assoc, or_left_comm, ← List.mem_cons]
        exact hused p hp
    · refine List.mem_append_right _ ?_
      rcases List.mem_cons.mp hp with rfl | hp
      · exact List.mem_cons_self
      · exact List.mem_cons_of_mem _ (htaken p hp)
  short hlength := h.short (Nat.lt_of_succ_lt_succ hlength)

end Taken

theorem takePorts_taken (handedOut : List Nat) (n : Nat) (offers : List Nat) :
    ∃ taken rest, Taken handedOut n offers taken rest ∧
      takePorts handedOut n offers =
        (if taken.length = n then some taken else none, taken.reverse ++ handedOut, rest) := by
  induction n generalizing handedOut offers with
  | zero => exact ⟨[], offers, .nothing_asked handedOut offers, rfl⟩
  | succ n ih =>
    unfold takePorts
    rcases freePort_cases handedOut offers with
      ⟨hall, hnone⟩ | ⟨skipped, port, rest, rfl, hskipped, hport, hsome⟩
    · rw [hnone]
      exact ⟨[], [], .nothing_new (n + 1) hall, rfl⟩
    · rw [hsome]
      obtain ⟨taken, left, htaken, hrun⟩ := ih (port :: handedOut) rest
      dsimp only
      rw [hrun]
      refine ⟨port :: taken, left, htaken.cons hskipped hport, ?_⟩
      by_cases hlength : taken.length = n <;> simp [hlength]

/-! ## One call -/

/-- What a call can come to: the outcome, the allocator after it, and what is left of the offers. -/
inductive Called (a : PortAllocator) (offers : List Nat) :
    Outcome → PortAllocator → List Nat → Prop
  | exhausted : a.count ≤ a.issued → Called a offers .exhausted a offers
  | allocated {ports : Ports} {rest : List Nat} : ¬a.count ≤ a.issued →
      Taken a.handedOut portsPerCase offers ports.toList rest →
        Called a offers (.allocated ports)
          { a with issued := a.issued + 1, handedOut := ports.toList.reverse ++ a.handedOut } rest
  | noOffers {taken : List Nat} : ¬a.count ≤ a.issued →
      Taken a.handedOut portsPerCase offers taken [] → taken.length < portsPerCase →
        Called a offers .noOffers
          { a with issued := a.issued + 1, handedOut := taken.reverse ++ a.handedOut } []

theorem exists_toList {taken : List Nat} (h : taken.length = portsPerCase) :
    ∃ ports : Ports, ports.toList = taken ∧ Ports.ofList? taken = some ports := by
  match taken, h with
  | [a, g, p, l, t, y], _ => exact ⟨⟨a, g, p, l, t, y⟩, rfl, rfl⟩

theorem called_allocate (a : PortAllocator) (offers : List Nat) :
    Called a offers (a.allocate offers).1 (a.allocate offers).2.1 (a.allocate offers).2.2 := by
  unfold allocate
  by_cases hcount : a.count ≤ a.issued
  · rw [if_pos hcount]
    exact .exhausted hcount
  rw [if_neg hcount]
  obtain ⟨taken, rest, htaken, hrun⟩ := takePorts_taken a.handedOut portsPerCase offers
  rw [hrun]
  by_cases hlength : taken.length = portsPerCase
  · obtain ⟨ports, rfl, hports⟩ := exists_toList hlength
    rw [if_pos hlength]
    dsimp only
    rw [hports]
    exact .allocated hcount htaken
  · have hshort : taken.length < portsPerCase := lt_of_le_of_ne htaken.length_le hlength
    obtain rfl := htaken.short hshort
    rw [if_neg hlength]
    exact .noOffers hcount htaken hshort

/-! ## One call after the other -/

def Outcome.answer (a : PortAllocator) (o : Outcome) : Except Failure Ports :=
  match o.toExcept a with
  | .ok ports => (Conversion.checkedPorts ports).toExcept
  | .error f => .error (.fault f)

def after (a : PortAllocator) (offers : List Nat) : Nat → PortAllocator × List Nat
  | 0 => (a, offers)
  | n + 1 => ((a.after offers n).1.allocate (a.after offers n).2).2

def answerAt (a : PortAllocator) (offers : List Nat) (n : Nat) : Except Failure Ports :=
  ((a.after offers n).1.allocate (a.after offers n).2).1.answer (a.after offers (n + 1)).1

def given (a : PortAllocator) (offers : List Nat) : Nat → List Ports
  | 0 => []
  | n + 1 => a.given offers n ++ (a.answerAt offers n).toOption.toList

/-- The account of an allocator of size `count` after `n` calls. -/
structure Account (count : Int) (offers : List Nat) (n : Nat) (given : List Ports)
    (a : PortAllocator) (rest : List Nat) : Prop where
  count_eq : a.count = count
  issued_eq : a.issued = min n count.toNat
  nodup : a.handedOut.Nodup
  used : ∃ used, offers = used ++ rest ∧ ∀ p, p ∈ used ↔ p ∈ a.handedOut
  full : a.handedOut.length = portsPerCase * a.issued ∨
    a.handedOut.length < portsPerCase * a.issued ∧ rest = []
  given_nodup : (given.flatMap Ports.toList).Nodup
  given_mem : ∀ p ∈ given.flatMap Ports.toList, p ∈ a.handedOut

def Usable (ports : List Nat) : Prop := ∀ p ∈ ports, 1 ≤ p ∧ p ≤ 65535

section Account

variable {count : Int} {offers rest rest' : List Nat} {n : Nat} {sets : List Ports}
  {a a' : PortAllocator} {o : Outcome}

theorem answer_allocated {ports : Ports} (h : Usable ports.toList) :
    (Outcome.allocated ports).answer a = .ok ports := by
  show (Conversion.checkedPorts ports).toExcept = .ok ports
  rw [Conversion.checkedPorts_of_mem h]
  rfl

theorem account_start (count : Int) (offers : List Nat) :
    Account count offers 0 [] { count := count } offers where
  count_eq := rfl
  issued_eq := (Nat.zero_min _).symm
  nodup := List.nodup_nil
  used := ⟨[], rfl, fun _ => Iff.rfl⟩
  full := .inl rfl
  given_nodup := List.nodup_nil
  given_mem := List.forall_mem_nil _

namespace Account

theorem exhausted_iff (h : Account count offers n sets a rest) :
    a.count ≤ a.issued ↔ count ≤ n := by
  rw [h.count_eq, h.issued_eq]
  omega

theorem used_taken (h : Account count offers n sets a rest) {taken : List Nat}
    (htaken : Taken a.handedOut portsPerCase rest taken rest') :
    ∃ used, offers = used ++ rest' ∧ ∀ p, p ∈ used ↔ p ∈ taken.reverse ++ a.handedOut := by
  obtain ⟨before, rfl, hbefore⟩ := h.used
  obtain ⟨now, rfl, hnow, htaken_now⟩ := htaken.used
  refine ⟨before ++ now, (List.append_assoc _ _ _).symm, fun p => ?_⟩
  rw [List.mem_append, List.mem_append, List.mem_reverse, hbefore]
  constructor
  · rintro (hp | hp)
    · exact .inr hp
    · exact hnow p hp
  · rintro (hp | hp)
    · exact .inr (htaken_now p hp)
    · exact .inl hp

theorem nodup_taken (h : Account count offers n sets a rest) {taken : List Nat}
    (htaken : Taken a.handedOut portsPerCase rest taken rest') :
    (taken.reverse ++ a.handedOut).Nodup := by
  refine List.Nodup.append (List.nodup_reverse.mpr htaken.nodup) h.nodup fun p hp => ?_
  exact htaken.fresh p (List.mem_reverse.mp hp)

/-- A call that gives ports comes after calls that all gave ports. -/
theorem length_allocated (h : Account count offers n sets a rest) {ports : Ports}
    (htaken : Taken a.handedOut portsPerCase rest ports.toList rest') :
    (ports.toList.reverse ++ a.handedOut).length = portsPerCase * (a.issued + 1) := by
  obtain ⟨used, rfl, -, hused⟩ := htaken.used
  have hbefore : a.handedOut.length = portsPerCase * a.issued := by
    rcases h.full with hfull | ⟨-, hnone⟩
    · exact hfull
    · -- nothing could be taken of nothing
      obtain rfl : used = [] := (List.append_eq_nil_iff.mp hnone).1
      exact absurd (hused ports.application List.mem_cons_self) List.not_mem_nil
  rw [List.length_append, List.length_reverse, hbefore, Nat.mul_succ, Nat.add_comm]
  rfl

theorem length_noOffers (h : Account count offers n sets a rest) {taken : List Nat}
    (hshort : taken.length < portsPerCase) :
    (taken.reverse ++ a.handedOut).length < portsPerCase * (a.issued + 1) := by
  have hbefore : a.handedOut.length ≤ portsPerCase * a.issued := by
    rcases h.full with hfull | ⟨hless, -⟩
    · exact hfull.le
    · exact hless.le
  rw [List.length_append, List.length_reverse, Nat.mul_succ]
  omega

/-- Every port that was handed out was offered. -/
theorem length_le_card (h : Account count offers n sets a rest) :
    a.handedOut.length ≤ offers.toFinset.card := by
  obtain ⟨used, rfl, hused⟩ := h.used
  rw [← List.toFinset_card_of_nodup h.nodup]
  refine Finset.card_le_card fun p hp => ?_
  rw [List.mem_toFinset, ← hused] at hp
  exact List.mem_toFinset.mpr (List.mem_append_left _ hp)

/-- Where nothing is left, every port that was offered is handed out. -/
theorem length_eq_card (h : Account count offers n sets a []) :
    a.handedOut.length = offers.toFinset.card := by
  obtain ⟨used, rfl, hused⟩ := h.used
  rw [← List.toFinset_card_of_nodup h.nodup, List.append_nil]
  refine congrArg Finset.card (Finset.ext fun p => ?_)
  rw [List.mem_toFinset, List.mem_toFinset, hused]

theorem usable_taken (h : Account count offers n sets a rest) (husable : Usable offers)
    {taken : List Nat} (htaken : Taken a.handedOut portsPerCase rest taken rest') :
    Usable taken := by
  intro p hp
  obtain ⟨used, rfl, hused⟩ := h.used_taken htaken
  refine husable p (List.mem_append_left _ ((hused p).mpr ?_))
  exact List.mem_append_left _ (List.mem_reverse.mpr hp)

/-- One case for each outcome of a call. -/
theorem called (h : Account count offers n sets a rest) (husable : Usable offers)
    (hcall : Called a rest o a' rest') :
    Account count offers (n + 1) (sets ++ (o.answer a').toOption.toList) a' rest' := by
  cases hcall with
  | exhausted hover =>
    have hcount := h.exhausted_iff.mp hover
    rw [show sets ++ (Outcome.exhausted.answer a).toOption.toList = sets from List.append_nil _]
    have hissued : a.issued = min (n + 1) count.toNat := by
      have := h.issued_eq
      omega
    exact ⟨h.count_eq, hissued, h.nodup, h.used, h.full, h.given_nodup, h.given_mem⟩
  | @allocated ports _ hover htaken =>
    have hcount := h.exhausted_iff.not.mp hover
    have hissued := h.issued_eq
    rw [answer_allocated (h.usable_taken husable htaken)]
    refine ⟨h.count_eq, by dsimp only; omega, h.nodup_taken htaken, h.used_taken htaken,
      .inl (h.length_allocated htaken), ?_, ?_⟩
    · show ((sets ++ [ports]).flatMap Ports.toList).Nodup
      rw [List.flatMap_append, List.flatMap_singleton]
      refine h.given_nodup.append htaken.nodup fun p hp hnew => ?_
      exact htaken.fresh p hnew (h.given_mem p hp)
    · show ∀ p ∈ (sets ++ [ports]).flatMap Ports.toList, p ∈ _
      rw [List.flatMap_append, List.flatMap_singleton]
      intro p hp
      rcases List.mem_append.mp hp with hp | hp
      · exact List.mem_append_right _ (h.given_mem p hp)
      · exact List.mem_append_left _ (List.mem_reverse.mpr hp)
  | @noOffers taken hover htaken hshort =>
    have hcount := h.exhausted_iff.not.mp hover
    have hissued := h.issued_eq
    rw [show sets ++ (Outcome.noOffers.answer _).toOption.toList = sets from List.append_nil _]
    exact ⟨h.count_eq, by dsimp only; omega, h.nodup_taken htaken, h.used_taken htaken,
      .inr ⟨h.length_noOffers hshort, rfl⟩, h.given_nodup,
      fun p hp => List.mem_append_right _ (h.given_mem p hp)⟩

/-- A call of the ones that there are ports for succeeds if and only if that many were offered. -/
theorem succeeds_iff (h : Account count offers n sets a rest) (husable : Usable offers)
    (hcall : Called a rest o a' rest') (hn : n < count) :
    (∃ ports, o.answer a' = .ok ports) ↔ portsPerCase * (n + 1) ≤ offers.toFinset.card := by
  have hafter := h.called husable hcall
  have hissued : a.issued = n := by
    have := h.issued_eq
    omega
  cases hcall with
  | exhausted hover => exact absurd (h.exhausted_iff.mp hover) (not_le.mpr hn)
  | @allocated ports _ hover htaken =>
    refine iff_of_true ⟨ports, answer_allocated (h.usable_taken husable htaken)⟩ ?_
    rw [← hissued, ← h.length_allocated htaken]
    exact hafter.length_le_card
  | @noOffers taken hover htaken hshort =>
    refine iff_of_false (fun ⟨ports, hports⟩ => nomatch hports) (not_le.mpr ?_)
    rw [← hafter.length_eq_card, ← hissued]
    exact h.length_noOffers hshort

/-- A call more than there are ports for is refused and changes nothing. -/
theorem refused (h : Account count offers n sets a rest) (hcall : Called a rest o a' rest')
    (hn : count ≤ n) :
    o.answer a' = .error (.fault (.portsExhausted count)) ∧ a' = a ∧ rest' = rest := by
  have hover := h.exhausted_iff.mpr hn
  cases hcall with
  | exhausted _ =>
    refine ⟨?_, rfl, rfl⟩
    rw [← h.count_eq]
    rfl
  | allocated hfree _ => exact absurd hover hfree
  | noOffers hfree _ _ => exact absurd hover hfree

end Account

theorem account_after (count : Int) {offers : List Nat} (husable : Usable offers) (n : Nat) :
    Account count offers n (given { count } offers n) (after { count } offers n).1
      (after { count } offers n).2 := by
  induction n with
  | zero => exact account_start count offers
  | succ n ih => exact ih.called husable (called_allocate _ _)

end Account

end PortAllocator
end TelemetryCheck
