import TelemetryCheck.Time

namespace TelemetryCheck

/-- Tells when a waiting check should speak up, at most once in an interval. -/
structure Heartbeat (τ : Type) where
  interval : τ
  last : τ

namespace Heartbeat

variable {τ : Type}

def defaultInterval : Float := 10.0

def start (interval now : τ) : Heartbeat τ := ⟨interval, now⟩

def reset (h : Heartbeat τ) (now : τ) : Heartbeat τ := { h with last := now }

/-- Whether an interval has passed; if so, the next one starts now. -/
def due [Time τ] (h : Heartbeat τ) (now : τ) : Bool × Heartbeat τ :=
  if h.interval ≤ now - h.last then (true, h.reset now) else (false, h)

section Due

variable [Time τ] {h : Heartbeat τ} {now : τ}

theorem due_of_le (hle : h.interval ≤ now - h.last) : h.due now = (true, h.reset now) :=
  if_pos hle

theorem due_of_not_le (hle : ¬h.interval ≤ now - h.last) : h.due now = (false, h) := if_neg hle

end Due

end Heartbeat
end TelemetryCheck
