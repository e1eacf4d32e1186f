import TelemetryCheck.Proofs.Matching.Fulfilment

/-!
# Growing telemetry

While a check is polled the backends answer more and more.  Records that are added at the end leave
the first match as it is, so a signal without an upper limit that is matched once stays matched.  A
limit that was exceeded stays exceeded, wherever further records turn up.
-/

namespace TelemetryCheck
namespace Signal

variable {s : Signal} {found extra larger : List Record}

def OpenEnded (s : Signal) : Prop :=
  s.count = none ∨ ∃ range, s.count = some range ∧ 0 < range.least ∧ range.most = 0

/-- A number of matches beyond the upper limit, which is zero where nothing may be found. -/
def Exceeds (s : Signal) (n : Nat) : Prop :=
  ∃ range, s.count = some range ∧ (range.isAbsence = true ∨ 0 < range.most) ∧ range.most < n

theorem OpenEnded.allowsCount_mono (h : s.OpenEnded) {m n : Nat} (hle : m ≤ n)
    (hm : s.AllowsCount m) : s.AllowsCount n := by
  unfold AllowsCount at *
  rcases h with hunset | ⟨range, hrange, hleast, hmost⟩
  · rw [hunset] at hm ⊢
    exact Nat.le_trans hm hle
  · rw [hrange] at hm ⊢
    have hpresent : range.isAbsence = false := by
      rw [← Bool.not_eq_true, range.isAbsence_iff]
      omega
    simp only [CountRange.allows_of_not_isAbsence hpresent] at hm ⊢
    omega

theorem Exceeds.not_allowsCount {n : Nat} (h : s.Exceeds n) : ¬s.AllowsCount n := by
  obtain ⟨range, hrange, hlimit, hbeyond⟩ := h
  rw [AllowsCount, hrange]
  show ¬range.Allows n
  cases habsent : range.isAbsence with
  | true =>
    have hends := range.isAbsence_iff.mp habsent
    rw [CountRange.allows_of_isAbsence habsent]
    omega
  | false =>
    have hmost : 0 < range.most := hlimit.resolve_left (by rw [habsent]; exact Bool.false_ne_true)
    rw [CountRange.allows_of_not_isAbsence habsent]
    omega

theorem Exceeds.mono {m n : Nat} (h : s.Exceeds m) (hle : m ≤ n) : s.Exceeds n := by
  obtain ⟨range, hrange, hlimit, hbeyond⟩ := h
  exact ⟨range, hrange, hlimit, by omega⟩

theorem selected_append (s : Signal) (found extra : List Record) :
    s.selected (found ++ extra) = s.selected found ++ s.selected extra :=
  List.filter_append found extra

theorem length_selected_le (s : Signal) (h : found.Sublist larger) :
    (s.selected found).length ≤ (s.selected larger).length :=
  (h.filter _).length_le

theorem matchSignal_eq_ok_iff (hs : s.Judgeable) {matched : List Record} :
    matchSignal s found = .ok matched ↔ matched = s.selected found ∧ s.Fulfilled found := by
  have hfulfilled : s.assess (s.selected found).length (s.selected found).head? = .ok () ↔
      s.Fulfilled found :=
    assess_eq_ok_iff.trans ⟨fun h => ⟨h.1, h.2⟩, fun h => ⟨h.count, h.attributes⟩⟩
  rw [matchSignal_eq hs, ← hfulfilled]
  cases s.assess (s.selected found).length (s.selected found).head? with
  | error f => simp [Except.map]
  | ok u => simp [Except.map, eq_comm]

/-- Records that come after the ones that fulfil an open-ended signal do not break it: the first
match, which stands for all, is still the first. -/
theorem Fulfilled.append (hopen : s.OpenEnded) (h : s.Fulfilled found) (extra : List Record) :
    s.Fulfilled (found ++ extra) := by
  have hlonger : (s.selected found).length ≤ (s.selected (found ++ extra)).length :=
    s.length_selected_le (List.sublist_append_left found extra)
  refine ⟨hopen.allowsCount_mono hlonger h.count, fun habsent => ?_⟩
  obtain ⟨first, hfirst, hcarried⟩ := h.attributes habsent
  refine ⟨first, ?_, hcarried⟩
  rw [selected_append, List.head?_append, Option.mem_def.mp hfirst]
  rfl

/-- Telemetry that grows does not break an open-ended signal: what is found after a match adds its
own matches to the old ones.  Nor does it repair one whose limit was exceeded: whatever turns up
between or around the records that were found, the signal is a mismatch. -/
theorem matchSignal_of_growth {context : String} (h : validateSignal s context = .ok []) :
    (s.OpenEnded → ∀ found extra matched, matchSignal s found = .ok matched →
        ∃ more, filterRecords s extra = .ok more ∧
          matchSignal s (found ++ extra) = .ok (matched ++ more)) ∧
      ∀ found named, filterRecords s found = .ok named → s.Exceeds named.length →
        ∀ larger, found.Sublist larger →
          ∃ message, matchSignal s larger = .error (.mismatch message none none) := by
  have hs : s.Judgeable := judgeable_of_validateSignal h
  constructor
  · intro hopen found extra matched hok
    obtain ⟨rfl, hfulfilled⟩ := (matchSignal_eq_ok_iff hs).mp hok
    refine ⟨s.selected extra, filterRecords_eq hs extra, (matchSignal_eq_ok_iff hs).mpr ?_⟩
    exact ⟨(s.selected_append found extra).symm, hfulfilled.append hopen extra⟩
  · intro found named hnamed hbeyond larger hsub
    have hselected : named = s.selected found := by
      rw [filterRecords_eq hs] at hnamed
      exact (Except.ok.inj hnamed).symm
    have hstill : s.Exceeds (s.selected larger).length :=
      hbeyond.mono (hselected ▸ s.length_selected_le hsub)
    have hverdict := matchSignal_isVerdict hs larger
    cases hmatch : matchSignal s larger with
    | ok matched =>
      have hfulfilled := ((matchSignal_eq_ok_iff hs).mp hmatch).2
      exact absurd hfulfilled.count hstill.not_allowsCount
    | error f =>
      rw [hmatch] at hverdict
      obtain ⟨message, rfl⟩ := hverdict
      exact ⟨message, rfl⟩

/-! ### Requests that keep coming in -/

def successes (range : CountRange) : Signal where
  regexp := some "^GET "
  attributes := [("status", "200")]
  count := some range

/-- Two requests that are meant, the later one without success, and one that is not meant. -/
def firstRequests : List Record :=
  [⟨"GET /a", [("status", "200")]⟩, ⟨"POST /a", []⟩, ⟨"GET /b", [("status", "500")]⟩]

def firstMatches : List Record :=
  [⟨"GET /a", [("status", "200")]⟩, ⟨"GET /b", [("status", "500")]⟩]

theorem firstRequests_grow :
    (∀ extra, ∃ more, filterRecords (successes ⟨2, 0⟩) extra = .ok more ∧
        matchSignal (successes ⟨2, 0⟩) (firstRequests ++ extra) = .ok (firstMatches ++ more)) ∧
      ∀ larger, firstRequests.Sublist larger →
        ∃ message,
          matchSignal (successes ⟨1, 1⟩) larger = .error (.mismatch message none none) := by
  have hopen : validateSignal (successes ⟨2, 0⟩) "traces[0]" = .ok [] := by decide +kernel
  have hlimited : validateSignal (successes ⟨1, 1⟩) "traces[0]" = .ok [] := by decide +kernel
  have hmatched : (matchSignal (successes ⟨2, 0⟩) firstRequests).toOption = some firstMatches := by
    decide +kernel
  have hnamed : (filterRecords (successes ⟨1, 1⟩) firstRequests).toOption = some firstMatches := by
    decide +kernel
  constructor
  · intro extra
    cases hok : matchSignal (successes ⟨2, 0⟩) firstRequests with
    | error f =>
      rw [hok] at hmatched
      cases hmatched
    | ok matched =>
      rw [hok] at hmatched
      cases hmatched
      exact (matchSignal_of_growth hopen).1 (.inr ⟨⟨2, 0⟩, rfl, by decide, rfl⟩) _ extra _ hok
  · cases hok : filterRecords (successes ⟨1, 1⟩) firstRequests with
    | error f =>
      rw [hok] at hnamed
      cases hnamed
    | ok named =>
      rw [hok] at hnamed
      cases hnamed
      exact (matchSignal_of_growth hlimited).2 _ _ hok ⟨⟨1, 1⟩, rfl, by decide, by decide⟩

end Signal
end TelemetryCheck
