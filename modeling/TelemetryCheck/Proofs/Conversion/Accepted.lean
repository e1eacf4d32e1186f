import TelemetryCheck.Conversion.Definition
import TelemetryCheck.Proofs.Conversion.Converted
import TelemetryCheck.Proofs.Time.Comparison

/-!
# Data that is accepted

Conversion complains about everything that is wrong at once.  Where it accepts, it has accepted
every part, and what was checked of a part holds of what the part was converted to.
-/

namespace TelemetryCheck
namespace Conversion

variable {α : Type}

/-- A field is absent, or what is given for it was accepted. -/
theorem field_eq_ok {entries : Entries} {key : FieldKey} {absent x : α}
    {convert : Data → Converted α} (h : field entries key absent convert = .ok x) :
    x = absent ∨ ∃ d, convert d = .ok x := by
  unfold field at h
  split at h
  · cases h
    exact .inl rfl
  · split at h
    · cases h
      exact .inl rfl
    · exact .inr ⟨_, Converted.under_eq_ok.mp h⟩

theorem strict_eq_ok {what : String} {keys : List FieldKey} {build : Entries → Converted α}
    {d : Data} {x : α} (h : strict what keys build d = .ok x) :
    ∃ entries, d = .record entries ∧ build entries = .ok x ∧ unknownKeys keys entries = [] := by
  cases d with
  | record entries => exact ⟨entries, rfl, Converted.withComplaints_eq_ok.mp h⟩
  | _ => cases h

theorem bounded_of_le {low high n : Nat} (hlow : low ≤ n) (hhigh : n ≤ high) :
    bounded low high (.int n) = .ok n := by
  unfold bounded
  show (if (n : Int) < low then _ else if (high : Int) < n then _ else _) = _
  rw [if_neg (by omega), if_neg (by omega)]
  rfl

theorem eq_of_bounded {low high n m : Nat} (h : bounded low high (.int n) = .ok m) : m = n := by
  obtain ⟨i, hi, hchecked⟩ := Converted.andThen_eq_ok.mp h
  cases hi
  split at hchecked
  · cases hchecked
  · split at hchecked
    · cases hchecked
    · cases hchecked
      rfl

theorem checkedPorts_eq (p : Ports) :
    checkedPorts p =
      (Ports.mk <$> (port (.int p.application)).under "application_port"
        <*> (port (.int p.grafana)).under "grafana_http_port"
        <*> (port (.int p.prometheus)).under "prometheus_http_port"
        <*> (port (.int p.loki)).under "loki_http_port"
        <*> (port (.int p.tempo)).under "tempo_http_port"
        <*> (port (.int p.pyroscope)).under "pyroscope_http_port") := rfl

/-- Ports that hosts can have are accepted as they are. -/
theorem checkedPorts_of_mem {p : Ports} (h : ∀ n ∈ p.toList, 1 ≤ n ∧ n ≤ 65535) :
    checkedPorts p = .ok p := by
  have hport : ∀ n ∈ p.toList, port (.int n) = .ok n := fun n hn =>
    bounded_of_le (h n hn).1 (h n hn).2
  simp only [Ports.toList, List.forall_mem_cons] at hport
  obtain ⟨h₁, h₂, h₃, h₄, h₅, h₆, -⟩ := hport
  rw [checkedPorts_eq, h₁, h₂, h₃, h₄, h₅, h₆]
  rfl

theorem eq_of_checkedPorts {p q : Ports} (h : checkedPorts p = .ok q) : q = p := by
  rw [checkedPorts_eq] at h
  obtain ⟨build₅, y, h₅, hy, rfl⟩ := Converted.ap_eq_ok.mp h
  obtain ⟨build₄, t, h₄, ht, rfl⟩ := Converted.ap_eq_ok.mp h₅
  obtain ⟨build₃, l, h₃, hl, rfl⟩ := Converted.ap_eq_ok.mp h₄
  obtain ⟨build₂, m, h₂, hm, rfl⟩ := Converted.ap_eq_ok.mp h₃
  obtain ⟨build₁, g, h₁, hg, rfl⟩ := Converted.ap_eq_ok.mp h₂
  obtain ⟨a, ha, rfl⟩ := Converted.map_eq_ok.mp h₁
  rw [Converted.under_eq_ok] at ha hg hm hl ht hy
  rw [eq_of_bounded ha, eq_of_bounded hg, eq_of_bounded hm, eq_of_bounded hl, eq_of_bounded ht,
    eq_of_bounded hy]

/-! ## The interval -/

theorem interval_eq_ok {d : Data} {seconds : Option Float} (h : interval d = .ok seconds) :
    ∀ x ∈ seconds, 0.0 ≤ x := by
  unfold interval at h
  split at h
  · cases h
    exact fun x hx => nomatch hx
  · obtain ⟨y, -, hy⟩ := Converted.andThen_eq_ok.mp h
    by_cases hpos : y ≥ 0.0
    · rw [if_pos hpos] at hy
      cases hy
      intro x hx
      cases hx
      exact hpos
    · rw [if_neg hpos] at hy
      cases hy

theorem interval_of_definition {data : Data} {d : Definition} (h : definition data = .ok d) :
    ∀ x ∈ d.interval, 0.0 ≤ x := by
  obtain ⟨entries, -, hbuild, -⟩ := strict_eq_ok h
  -- the fields are taken off one by one from the last
  obtain ⟨build₆, expected, h₆, -, rfl⟩ := Converted.ap_eq_ok.mp hbuild
  obtain ⟨build₅, seconds, h₅, hseconds, rfl⟩ := Converted.ap_eq_ok.mp h₆
  obtain ⟨build₄, input, h₄, -, rfl⟩ := Converted.ap_eq_ok.mp h₅
  obtain ⟨build₃, matrix, h₃, -, rfl⟩ := Converted.ap_eq_ok.mp h₄
  obtain ⟨build₂, kubernetes, h₂, -, rfl⟩ := Converted.ap_eq_ok.mp h₃
  obtain ⟨build₁, compose, h₁, -, rfl⟩ := Converted.ap_eq_ok.mp h₂
  obtain ⟨includes, -, rfl⟩ := Converted.map_eq_ok.mp h₁
  show ∀ x ∈ seconds, 0.0 ≤ x
  rcases field_eq_ok hseconds with rfl | ⟨given, hgiven⟩
  · exact fun x hx => nomatch hx
  · exact interval_eq_ok hgiven

end Conversion

/-- Zero gives way to the default, so that there is always some time between two attempts. -/
theorem Definition.pollingInterval_pos {d : Definition} (h : ∀ x ∈ d.interval, 0.0 ≤ x) :
    0.0 < d.pollingInterval := by
  have hdefault : 0.0 < defaultInterval := by decide +kernel
  unfold pollingInterval
  cases hinterval : d.interval with
  | none => exact hdefault
  | some x =>
    dsimp only
    by_cases hzero : (x == 0.0) = true
    · rw [if_pos hzero]
      exact hdefault
    · rw [if_neg hzero]
      obtain ⟨o, ho, hle⟩ := Double.le_iff.mp (h x (by rw [hinterval]; rfl))
      cases o with
      | lt => exact Double.lt_iff.mpr ho
      | eq =>
        refine absurd ?_ hzero
        have hswap : Double.order x 0.0 = some .eq := by
          have h := Double.compare_swap (0.0 : Float).toModel.unpack x.toModel.unpack
          rwa [show (0.0 : Float).toModel.unpack.compare x.toModel.unpack = some .eq from ho] at h
        show (Double.order x 0.0 == some .eq) = true
        rw [hswap]
        rfl
      | gt => cases hle

end TelemetryCheck
