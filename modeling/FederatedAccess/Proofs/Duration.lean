import FederatedAccess.Duration

/-!
# Durations in order

One duration is not longer than another when this holds of their nanoseconds. Whole seconds and
whole milliseconds keep the order.
-/

namespace FederatedAccess.Duration

def inNanos (d : Duration) : Nat :=
  d.seconds.toNat * 1000000000 + d.nanos

instance : LE Duration := ⟨fun a b => a.inNanos ≤ b.inNanos⟩

variable {a b : Duration}

theorem seconds_eq (d : Duration) : d.seconds.toNat = d.inNanos / 1000000000 := by
  rw [inNanos, Nat.mul_comm, Nat.mul_add_div (by decide), Nat.div_eq_of_lt d.nanos_lt, Nat.add_zero]

theorem millis_eq (d : Duration) : d.millis = d.inNanos / 1000000 := by
  have hnanos : d.inNanos = 1000000 * (d.seconds.toNat * 1000) + d.nanos := by
    unfold inNanos
    omega
  rw [hnanos, Nat.mul_add_div (by decide), millis]

theorem seconds_le_of_le (h : a ≤ b) : a.seconds.toNat ≤ b.seconds.toNat := by
  rw [seconds_eq, seconds_eq]
  exact Nat.div_le_div_right h

theorem millis_le_of_le (h : a ≤ b) : a.millis ≤ b.millis := by
  rw [millis_eq, millis_eq]
  exact Nat.div_le_div_right h

/-- What is shorter than a millisecond has none. -/
theorem millis_eq_zero (h : a.inNanos < 1000000) : a.millis = 0 := by
  rw [millis_eq]
  exact Nat.div_eq_of_lt h

end FederatedAccess.Duration
