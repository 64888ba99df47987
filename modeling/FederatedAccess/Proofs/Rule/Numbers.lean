import FederatedAccess.Proofs.Number.Value
import FederatedAccess.Proofs.Rule.Positive
import Mathlib.Tactic.NormNum

/-!
# Rules about numbers

A numeric rule is met by the tokens whose attribute is a number in the relation to the expected one,
as fractions and without rounding. An attribute that is no number meets no operator, not even the
one for inequality; any other is equal to the expected number, less or greater, and the remaining
operators follow from this (`numbers_compared_exactly`).
-/

namespace FederatedAccess

namespace NumericOperator

/-- The relation of fractions that an operator names. -/
def Relates : NumericOperator → ℚ → ℚ → Prop
  | equals, x, y => x = y
  | notEquals, x, y => x ≠ y
  | greaterThan, x, y => y < x
  | lessThan, x, y => x < y
  | greaterOrEqual, x, y => y ≤ x
  | lessOrEqual, x, y => x ≤ y

variable {operator : NumericOperator} {x y : ℚ}

theorem admits_cmp_iff : operator.admits (cmp x y) = true ↔ operator.Relates x y := by
  rcases lt_trichotomy x y with h | rfl | h
  · rw [(cmp_eq_lt_iff x y).2 h]
    cases operator <;> simp [admits, Relates, h, h.ne, h.le, h.not_gt, h.not_ge]
  · rw [cmp_self_eq_eq]
    cases operator <;> simp [admits, Relates]
  · rw [(cmp_eq_gt_iff x y).2 h]
    cases operator <;> simp [admits, Relates, h, h.ne', h.le, h.not_gt, h.not_ge]

theorem holds_iff {value : String} {expected : Decimal} :
    operator.holds value expected = true ↔
      ∃ actual, Decimal.ofText? (Text.trim value) = some actual ∧
        operator.Relates actual.value expected.value := by
  rw [holds]
  cases Decimal.ofText? (Text.trim value) with
  | none => simp
  | some actual =>
    have hadmits : operator.admits (actual.compare expected) = true ↔
        operator.Relates actual.value expected.value := by
      rw [Decimal.compare_eq_cmp, admits_cmp_iff]
    simp only [hadmits, Option.some.injEq, exists_eq_left']

end NumericOperator

namespace Rule

open NumericOperator

/-- The token carries the attribute, and its value is read as a number. -/
def CarriesNumber (token : Token) (name : String) (actual : Decimal) : Prop :=
  ∃ value, token.attribute? name = some value ∧ Decimal.ofText? (Text.trim value) = some actual

section

variable [Pattern.SizeLimit] {name : String} {expected : Decimal} {operator : NumericOperator}
  {tokens : TokenSet} {token : Token}

theorem mem_met_numeric :
    token ∈ (numeric name expected operator).met tokens ↔
      token ∈ tokens ∧ ∃ value actual, token.attribute? name = some value ∧
        Decimal.ofText? (Text.trim value) = some actual ∧
        operator.Relates actual.value expected.value := by
  rw [met, metWith, carrying, Catalog.mem_filter]
  refine and_congr_right fun _ => ?_
  cases token.attribute? name with
  | none => simp
  | some value => simp [holds_iff]

theorem mem_met_of_carriesNumber {actual : Decimal} (h : CarriesNumber token name actual) :
    token ∈ (numeric name expected operator).met tokens ↔
      token ∈ tokens ∧ operator.Relates actual.value expected.value := by
  obtain ⟨value, hvalue, hactual⟩ := h
  rw [mem_met_numeric, hvalue]
  simp [hactual]

/-- **Numbers are compared exactly.** A numeral of at most 28 digits meets the operators that hold
between its value and the expected one. Any other attribute meets no operator at all, or exactly one
of equal, less and greater, which settles the other three. -/
theorem numbers_compared_exactly (name : String) (expected : Decimal) (tokens : TokenSet)
    (token : Token) :
    (∀ (n : DecimalNumeral) (value : String), n.digitCount ≤ 28 →
        token.attribute? name = some value → Text.trim value = String.ofList n.chars →
        ∀ operator, token ∈ (numeric name expected operator).met tokens ↔
          token ∈ tokens ∧ operator.Relates n.value expected.value) ∧
      ((∀ operator, token ∉ (numeric name expected operator).met tokens) ∨
        ∃ found ∈ [equals, lessThan, greaterThan],
          (∀ operator ∈ [equals, lessThan, greaterThan],
            (token ∈ (numeric name expected operator).met tokens ↔ operator = found)) ∧
          (token ∈ (numeric name expected notEquals).met tokens ↔ found ≠ equals) ∧
          (token ∈ (numeric name expected lessOrEqual).met tokens ↔ found ≠ greaterThan) ∧
          (token ∈ (numeric name expected greaterOrEqual).met tokens ↔ found ≠ lessThan)) := by
  constructor
  · intro n value hdigits hvalue htext operator
    obtain ⟨actual, hread, hactual⟩ := DecimalNumeral.ofText?_chars hdigits
    have hcarries : CarriesNumber token name actual := ⟨value, hvalue, by rw [htext, hread]⟩
    rw [mem_met_of_carriesNumber hcarries, hactual]
  · by_cases hcarries : token ∈ tokens ∧ ∃ actual, CarriesNumber token name actual
    · right
      obtain ⟨htoken, actual, hcarries⟩ := hcarries
      simp only [mem_met_of_carriesNumber hcarries, htoken, true_and, List.mem_cons,
        List.not_mem_nil, or_false, forall_eq_or_imp, forall_eq, Relates]
      rcases lt_trichotomy actual.value expected.value with h | h | h
      · exact ⟨lessThan, by simp, by simp [h, h.ne, h.le, h.not_gt]⟩
      · exact ⟨equals, by simp, by simp [h]⟩
      · exact ⟨greaterThan, by simp, by simp [h, h.ne', h.le, h.not_gt]⟩
    · left
      intro operator hmet
      obtain ⟨htoken, value, actual, hvalue, hactual, -⟩ := mem_met_numeric.1 hmet
      exact hcarries ⟨htoken, actual, value, hvalue, hactual⟩

end

/-! ## A number that is beyond the places of another -/

attribute [local instance] Pattern.SizeLimit.unlimited

/-- `+7.950000000000000000000000000`, with 28 digits. -/
def longNumeral : DecimalNumeral where
  sign := .plus
  whole := [7]
  places := 9 :: 5 :: List.replicate 25 0

/-- The greatest decimal with 28 places, `7.9228162514264337593543950335`. -/
def finestDecimal : Decimal where
  mantissa := 79228162514264337593543950335
  scale := 28

def longBearer : Token :=
  Token.bearer "v" " +7.950000000000000000000000000\n"

/-- With one place more the digits of the number have no room in a decimal; it is still the greater
one, and equal to what is written with fewer places. -/
theorem long_number_compared :
    longNumeral.digitCount ≤ 28 ∧
      longBearer.attribute? "v" = some " +7.950000000000000000000000000\n" ∧
      Text.trim " +7.950000000000000000000000000\n" = String.ofList longNumeral.chars ∧
      longBearer ∈ (numeric "v" finestDecimal .greaterThan).met (Catalog.ofList [longBearer]) ∧
      longBearer ∉ (numeric "v" finestDecimal .lessOrEqual).met (Catalog.ofList [longBearer]) ∧
      longBearer ∈ (numeric "v" ⟨795, 2, by decide, by decide⟩ .equals).met
        (Catalog.ofList [longBearer]) := by
  have hdigits : longNumeral.digitCount ≤ 28 := by decide
  have hvalue : longBearer.attribute? "v" = some " +7.950000000000000000000000000\n" :=
    Token.attribute?_bearer_iff.2 ⟨by decide, rfl⟩
  have htext : Text.trim " +7.950000000000000000000000000\n" = String.ofList longNumeral.chars := by
    decide
  have hmem : longBearer ∈ (Catalog.ofList [longBearer] : TokenSet) :=
    (Catalog.mem_ofList fun _ _ => Token.ext_text).2 (List.mem_singleton_self _)
  have hnumeral : longNumeral.value = 795 / 100 := by
    have hmantissa : longNumeral.mantissa = 7950000000000000000000000000 := by decide
    have hplaces : longNumeral.places.length = 27 := by decide
    rw [DecimalNumeral.value, hmantissa, hplaces]
    norm_num
  refine ⟨hdigits, hvalue, htext, ?_, ?_, ?_⟩
  · rw [(numbers_compared_exactly "v" finestDecimal _ longBearer).1 longNumeral _ hdigits hvalue
      htext, hnumeral]
    refine ⟨hmem, ?_⟩
    norm_num [Relates, Decimal.value, finestDecimal]
  · rw [(numbers_compared_exactly "v" finestDecimal _ longBearer).1 longNumeral _ hdigits hvalue
      htext, hnumeral]
    norm_num [Relates, Decimal.value, finestDecimal]
  · rw [(numbers_compared_exactly "v" _ _ longBearer).1 longNumeral _ hdigits hvalue htext, hnumeral]
    refine ⟨hmem, ?_⟩
    norm_num [Relates, Decimal.value]

end Rule

end FederatedAccess
