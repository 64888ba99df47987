import FederatedAccess.Duration

/-!
# Points in time

Times are signed words: seconds since the epoch in tokens, milliseconds in proofs. Sums and
differences stop at the ends of the range.
-/

namespace FederatedAccess.Time

/-- The sum, or the nearest end of the range. -/
def add (a b : Int64) : Int64 :=
  Int64.ofIntClamp (a.toInt + b.toInt)

/-- The difference, or the nearest end of the range. -/
def sub (a b : Int64) : Int64 :=
  Int64.ofIntClamp (a.toInt - b.toInt)

/-- A natural number as a word, or the greatest word. -/
def ofNat (n : Nat) : Int64 :=
  Int64.ofIntClamp n

/-- The two clocks that are read when nothing else is said. -/
structure Clock where
  /-- Seconds since the epoch. -/
  seconds : Int64
  /-- Milliseconds since the epoch. -/
  millis : Int64

end FederatedAccess.Time
