import Mathlib.Data.Set.Insert
import TelemetryCheck.Proofs.Verdict

/-!
# Counts

A range is looked at twice: by validation, which refuses some ranges, and when matches are counted,
where zero as the upper end means that there is none.  The ranges that validation lets pass are
those that some number of matches satisfies and that are clear about whether none at all will do.
-/

namespace TelemetryCheck
namespace CountRange

/-- The policy for the number of matches.  Zero to zero asks for none, and with an upper end of zero
there is no limit. -/
def Allows (r : CountRange) (n : Nat) : Prop :=
  if r.least = 0 ∧ r.most = 0 then n = 0
  else if r.most = 0 then r.least ≤ n
  else r.least ≤ n ∧ n ≤ r.most

theorem checkCount_eq_ok_iff {r : CountRange} {n : Nat} :
    checkCount r n = .ok () ↔ r.Allows n := by
  unfold checkCount Allows
  by_cases habsent : r.isAbsence = true
  · have hends := r.isAbsence_iff.mp habsent
    rw [if_pos habsent, if_pos hends]
    by_cases hn : (n : Int) = 0
    · rw [if_pos hn]
      simp only [true_iff]
      omega
    · rw [if_neg hn]
      simp only [reduceCtorEq, false_iff]
      omega
  · have hends : ¬(r.least = 0 ∧ r.most = 0) := fun h => habsent (r.isAbsence_iff.mpr h)
    rw [if_neg habsent, if_neg hends]
    by_cases houtside : (n : Int) < r.least ∨ (r.most ≠ 0 ∧ r.most < n)
    · rw [if_pos houtside]
      simp only [reduceCtorEq, false_iff]
      split <;> omega
    · rw [if_neg houtside]
      simp only [true_iff]
      split <;> omega

def admitted (r : CountRange) : Set Nat := {n | checkCount r n = .ok ()}

theorem mem_admitted_iff {r : CountRange} {n : Nat} : n ∈ r.admitted ↔ r.Allows n :=
  checkCount_eq_ok_iff

variable {r : CountRange}

theorem allows_of_isAbsence (h : r.isAbsence = true) {n : Nat} : r.Allows n ↔ n = 0 := by
  rw [Allows, if_pos (r.isAbsence_iff.mp h)]

theorem allows_of_not_isAbsence (h : r.isAbsence = false) {n : Nat} :
    r.Allows n ↔ r.least ≤ n ∧ (r.most = 0 ∨ n ≤ r.most) := by
  have hends : ¬(r.least = 0 ∧ r.most = 0) := by
    rw [← r.isAbsence_iff, h]
    exact Bool.false_ne_true
  rw [Allows, if_neg hends]
  split <;> omega

theorem admitted_eq_zero_iff : r.admitted = {0} ↔ r.isAbsence = true := by
  constructor
  · intro h
    have hzero : r.Allows 0 := mem_admitted_iff.mp (h ▸ Set.mem_singleton 0)
    have hone : ¬r.Allows 1 := fun hallows =>
      absurd (h ▸ mem_admitted_iff.mpr hallows : (1 : Nat) ∈ ({0} : Set Nat)) (by simp)
    cases habsent : r.isAbsence with
    | true => rfl
    | false =>
      -- where none will do, one is refused only by an upper end, which then is zero
      rw [allows_of_not_isAbsence habsent] at hzero hone
      omega
  · intro h
    ext n
    rw [mem_admitted_iff, allows_of_isAbsence h, Set.mem_singleton_iff]

theorem admitted_nonempty_iff :
    r.admitted.Nonempty ↔ r.most = 0 ∨ (0 ≤ r.most ∧ r.least ≤ r.most) := by
  cases habsent : r.isAbsence with
  | true =>
    have hends := r.isAbsence_iff.mp habsent
    rw [admitted_eq_zero_iff.mpr habsent]
    exact ⟨fun _ => .inl hends.2, fun _ => Set.singleton_nonempty 0⟩
  | false =>
    constructor
    · rintro ⟨n, hn⟩
      have hallows := (allows_of_not_isAbsence habsent).mp (mem_admitted_iff.mp hn)
      omega
    · intro h
      -- the greater one of the lower end and zero passes if any number does
      refine ⟨r.least.toNat, mem_admitted_iff.mpr ((allows_of_not_isAbsence habsent).mpr ?_)⟩
      omega

/-- Validation refuses a range that has none and some within its ends, one that begins below zero,
and one whose ends are the wrong way round. -/
theorem validateCount_eq_nil_iff {context : String} :
    validateCount (some r) context = [] ↔
      ¬(r.least = 0 ∧ 0 < r.most) ∧ 0 ≤ r.least ∧ (r.most = 0 ∨ r.least ≤ r.most) := by
  simp only [validateCount, List.append_eq_nil_iff, note_eq_nil, Bool.and_eq_false_iff,
    bne_eq_false_iff_eq, beq_eq_false_iff_ne, decide_eq_false_iff_not, ne_eq]
  omega

theorem zero_not_mem_admitted_iff (h : r.isAbsence = false) :
    0 ∉ r.admitted ↔ 0 < r.least ∨ r.most < 0 := by
  rw [mem_admitted_iff, allows_of_not_isAbsence h]
  omega

/-- Validation lets a range pass exactly if some number of matches satisfies it and it is clear about
none at all: either none is the only number, which is what an absence is, or none will not do.  What
it refuses is satisfied by nothing, or by none as well as by some. -/
theorem validateCount_accepts_meaningful (r : CountRange) (context : String) :
    (validateCount (some r) context = [] ↔
        r.admitted.Nonempty ∧ (r.admitted = {0} ∨ 0 ∉ r.admitted)) ∧
      (r.admitted = {0} ↔ r.isAbsence = true) ∧
      (validateCount (some r) context = [] ∧ r.admitted.Nonempty ∧
          (r.isAbsence = true ∨ 0 ∉ r.admitted) ∨
        validateCount (some r) context ≠ [] ∧
          (r.admitted = ∅ ∨ 0 ∈ r.admitted ∧ ∃ n ∈ r.admitted, 0 < n)) := by
  have haccepts : validateCount (some r) context = [] ↔
      r.admitted.Nonempty ∧ (r.admitted = {0} ∨ 0 ∉ r.admitted) := by
    rw [validateCount_eq_nil_iff, admitted_nonempty_iff, admitted_eq_zero_iff]
    cases habsent : r.isAbsence with
    | true =>
      have hends := r.isAbsence_iff.mp habsent
      simp only [true_or, and_true]
      omega
    | false =>
      have hends : ¬(r.least = 0 ∧ r.most = 0) := by
        rw [← r.isAbsence_iff, habsent]
        exact Bool.false_ne_true
      rw [zero_not_mem_admitted_iff habsent]
      simp only [Bool.false_eq_true, false_or]
      omega
  refine ⟨haccepts, admitted_eq_zero_iff, ?_⟩
  by_cases hvalid : validateCount (some r) context = []
  · obtain ⟨hnonempty, hclear⟩ := haccepts.mp hvalid
    rw [admitted_eq_zero_iff] at hclear
    exact .inl ⟨hvalid, hnonempty, hclear⟩
  · refine .inr ⟨hvalid, ?_⟩
    rcases Set.eq_empty_or_nonempty r.admitted with hempty | hnonempty
    · exact .inl hempty
    · have hunclear : ¬(r.admitted = {0} ∨ 0 ∉ r.admitted) := fun h =>
        hvalid (haccepts.mpr ⟨hnonempty, h⟩)
      rw [not_or, not_not] at hunclear
      obtain ⟨hnotOnly, hzero⟩ := hunclear
      refine .inr ⟨hzero, ?_⟩
      by_contra hnone
      refine hnotOnly (Set.eq_singleton_iff_unique_mem.mpr ⟨hzero, fun n hn => ?_⟩)
      exact Nat.eq_zero_of_not_pos fun hpos => hnone ⟨n, hn, hpos⟩

end CountRange
end TelemetryCheck
