import FederatedAccess.Proofs.Number.Decimal
import Mathlib.Algebra.Order.Field.Rat
import Mathlib.Data.List.Induction
import Mathlib.Tactic.Positivity

/-!
# The values of decimal numbers

A decimal stands for a fraction, and so does a numeral: an optional sign, digits, and a point with
further digits if there are any. Decimals are compared as these fractions are, whatever their places
(`compare_eq_cmp`), and a numeral of at most 28 digits is read as a decimal of the same value
(`ofText?_chars`): ten to the 28th is less than two to the 96th, so every digit has room.
-/

namespace FederatedAccess

namespace Decimal

/-! ## Comparison -/

/-- The fraction that a decimal stands for. -/
def value (d : Decimal) : ℚ :=
  d.mantissa / 10 ^ d.scale

variable {a b : Decimal}

theorem value_lt_iff :
    a.value < b.value ↔ a.mantissa * Nat.pow 10 b.scale < b.mantissa * Nat.pow 10 a.scale := by
  have ha : (0 : ℚ) < 10 ^ a.scale := by positivity
  have hb : (0 : ℚ) < 10 ^ b.scale := by positivity
  rw [value, value, div_lt_div_iff₀ ha hb]
  constructor
  · intro h
    exact_mod_cast h
  · intro h
    exact_mod_cast h

/-- **Comparison is exact.** Decimals stand in the order of the fractions, also with different numbers
of places. -/
theorem compare_eq_cmp (a b : Decimal) : a.compare b = cmp a.value b.value := by
  rw [Decimal.compare]
  rcases lt_trichotomy a.value b.value with h | h | h
  · rw [cmp_eq_lt_iff _ _ |>.2 h]
    exact Int.compare_eq_lt.2 (value_lt_iff.1 h)
  · have hab : ¬ a.value < b.value := by rw [h]; exact lt_irrefl _
    have hba : ¬ b.value < a.value := by rw [h]; exact lt_irrefl _
    rw [value_lt_iff] at hab hba
    rw [cmp_eq_eq_iff _ _ |>.2 h]
    exact Int.compare_eq_eq.2 (by omega)
  · rw [cmp_eq_gt_iff _ _ |>.2 h]
    exact Int.compare_eq_gt.2 (value_lt_iff.1 h)

theorem ofPlainChars?_plus {rest : List Char} :
    ofPlainChars? ('+' :: rest) =
      (readChars false false 0 0 rest).bind fun found => ofParts? found.1 found.2 :=
  rfl

end Decimal

/-! ## Numerals -/

/-- A decimal numeral: at least one digit, after an optional sign and before an optional point with
further digits. -/
structure DecimalNumeral where
  sign : Numeral.Sign
  whole : List Nat
  places : List Nat
  whole_small : ∀ d ∈ whole, d < 10 := by decide
  places_small : ∀ d ∈ places, d < 10 := by decide
  whole_nonempty : whole ≠ [] := by decide

namespace DecimalNumeral

open Numeral (digitChar ofDigits)
open Decimal (limit mostPlaces)

/-- The characters of the numeral. The point is there when digits follow it. -/
def chars (n : DecimalNumeral) : List Char :=
  n.sign.chars ++ (n.whole.map digitChar ++
    if n.places.length = 0 then [] else '.' :: n.places.map digitChar)

def digitCount (n : DecimalNumeral) : Nat :=
  n.whole.length + n.places.length

/-- All digits, as an integer with the sign. -/
def mantissa (n : DecimalNumeral) : Int :=
  n.sign.apply (ofDigits (n.whole ++ n.places))

/-- The fraction that the numeral stands for. -/
def value (n : DecimalNumeral) : ℚ :=
  n.mantissa / 10 ^ n.places.length

variable {n : DecimalNumeral}

theorem splits (n : DecimalNumeral) :
    Decimal.Splits (ofDigits (n.whole ++ n.places)) n.places.length n.whole n.places :=
  ⟨rfl, n.whole_small, n.places_small, n.whole_nonempty, rfl⟩

theorem ofDigits_lt {ds : List Nat} (h : ∀ d ∈ ds, d < 10) : ofDigits ds < 10 ^ ds.length := by
  induction ds using List.reverseRecOn with
  | nil => decide
  | append_singleton ds d ih =>
    have hds := ih fun e he => h e (List.mem_append_left _ he)
    have hd : d < 10 := h d (by simp)
    rw [Numeral.ofDigits_append, List.length_append, List.length_singleton, Nat.pow_succ]
    omega

/-- The digits have room in a decimal. -/
theorem digits_lt_limit (h : n.digitCount ≤ mostPlaces) :
    ofDigits (n.whole ++ n.places) < limit := by
  have hsmall : ∀ d ∈ n.whole ++ n.places, d < 10 := by
    intro d hd
    rcases List.mem_append.1 hd with hd | hd
    · exact n.whole_small d hd
    · exact n.places_small d hd
  have hlength : (n.whole ++ n.places).length ≤ 28 := by
    rw [List.length_append]
    exact h
  calc ofDigits (n.whole ++ n.places)
      < 10 ^ (n.whole ++ n.places).length := ofDigits_lt hsmall
    _ ≤ 10 ^ 28 := Nat.pow_le_pow_right (by decide) hlength
    _ < limit := by decide

theorem natAbs_mantissa (n : DecimalNumeral) :
    n.mantissa.natAbs = ofDigits (n.whole ++ n.places) := by
  rw [mantissa]
  cases n.sign with
  | none => exact Int.natAbs_natCast _
  | plus => exact Int.natAbs_natCast _
  | minus => exact (Int.natAbs_neg _).trans (Int.natAbs_natCast _)

/-- What stands behind the sign is read as the digits and the number of places. -/
theorem ofPlainChars?_chars (h : n.digitCount ≤ mostPlaces) :
    Decimal.ofPlainChars? n.chars = Decimal.ofParts? n.mantissa n.places.length := by
  have hlength : n.places.length ≤ mostPlaces := by
    rw [digitCount] at h
    omega
  have hread := n.splits.readChars (digits_lt_limit h) hlength
  rw [chars, mantissa]
  cases n.sign with
  | none =>
    obtain ⟨first, more, hwhole⟩ := List.exists_cons_of_ne_nil n.whole_nonempty
    have hfirst : first < 10 := n.whole_small first (by simp [hwhole])
    rw [Numeral.Sign.chars, List.nil_append]
    rw [hwhole, List.map_cons, List.cons_append] at hread ⊢
    rw [Decimal.ofPlainChars?_unsigned hfirst, hread]
    rfl
  | plus =>
    rw [Numeral.Sign.chars, List.singleton_append, Decimal.ofPlainChars?_plus, hread]
    rfl
  | minus =>
    rw [Numeral.Sign.chars, List.singleton_append, Decimal.ofPlainChars?_minus, hread]
    rfl

/-- **Numerals.** A numeral of at most 28 digits is read, and as a decimal of its value. -/
theorem ofText?_chars (h : n.digitCount ≤ mostPlaces) :
    ∃ d, Decimal.ofText? (String.ofList n.chars) = some d ∧ d.value = n.value := by
  have hfits : n.mantissa.natAbs < limit ∧ n.places.length ≤ 28 := by
    constructor
    · rw [natAbs_mantissa]
      exact digits_lt_limit h
    · rw [digitCount, mostPlaces] at h
      omega
  refine ⟨⟨n.mantissa, n.places.length, hfits.1, hfits.2⟩, ?_, rfl⟩
  rw [Decimal.ofText?, String.toList_ofList, ofPlainChars?_chars h, Decimal.ofParts?, dif_pos hfits]
  rfl

end DecimalNumeral

end FederatedAccess
