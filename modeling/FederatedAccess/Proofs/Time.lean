import FederatedAccess.Time
import Mathlib.Algebra.Group.Nat.Defs

/-!
# Saturating times as integers

Sums and differences of times stop at the ends of the range of a signed word. Here they are read as
integers, where a comparison with such a sum is a comparison with the true sum, cut off at the
greatest time.
-/

namespace FederatedAccess.Time

def greatest : Nat := 2 ^ 63 - 1

theorem toInt_ofIntClamp (x : Int) :
    (Int64.ofIntClamp x).toInt = max (-(greatest : Int) - 1) (min x greatest) := by
  have hmin : Int64.minValue.toInt = -(greatest : Int) - 1 := rfl
  have hmax : Int64.maxValue.toInt = greatest := rfl
  unfold Int64.ofIntClamp
  split
  · split
    · rw [Int64.toInt_ofIntLE]
      omega
    · rw [hmax]
      omega
  · rw [hmin]
    omega

theorem neg_greatest_le_toInt (a : Int64) : -(greatest : Int) - 1 ≤ a.toInt :=
  a.minValue_le_toInt

@[simp] theorem toInt_ofNat (n : Nat) : (ofNat n).toInt = (min n greatest : Nat) := by
  rw [ofNat, toInt_ofIntClamp]
  omega

@[simp] theorem toInt_neg_ofNat (n : Nat) : (-ofNat n).toInt = -(min n greatest : Nat) := by
  have hsize : ((2 ^ 64 : Nat) : Int) = 2 * greatest + 2 := rfl
  rw [Int64.toInt_neg, toInt_ofNat, Int.bmod_eq_of_le]
  · omega
  · omega

@[simp] theorem toInt_add (a b : Int64) :
    (add a b).toInt = max (-(greatest : Int) - 1) (min (a.toInt + b.toInt) greatest) :=
  toInt_ofIntClamp _

@[simp] theorem toInt_sub (a b : Int64) :
    (sub a b).toInt = max (-(greatest : Int) - 1) (min (a.toInt - b.toInt) greatest) :=
  toInt_ofIntClamp _

/-- A time lies before the end of a span exactly when it lies before the true end, cut off at the
greatest time. -/
theorem not_add_ofNat_le_iff (a now : Int64) (n : Nat) :
    ¬ add a (ofNat n) ≤ now ↔ now.toInt < min (a.toInt + min n greatest) greatest := by
  have ha := neg_greatest_le_toInt a
  rw [Int64.le_iff_toInt_le, toInt_add, toInt_ofNat]
  omega

/-- A difference lies within a window exactly when the true difference does. Where the difference is
cut off, no window is wide enough. -/
theorem sub_within_iff (a b : Int64) (n : Nat) :
    (sub a b < ofNat n ∧ -ofNat n < sub a b) ↔
      (a.toInt - b.toInt).natAbs < min n greatest := by
  rw [Int64.lt_iff_toInt_lt, Int64.lt_iff_toInt_lt, toInt_sub, toInt_ofNat, toInt_neg_ofNat]
  omega

end FederatedAccess.Time
