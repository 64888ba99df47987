import FederatedAccess.Proofs.Pattern.Anchored
import FederatedAccess.Proofs.Pattern.Matching
import FederatedAccess.Proofs.Rule.Patterns
import FederatedAccess.Proofs.Rule.Positive

/-!
# Patterns and whole values

A pattern of a rule is meant for the whole value of an attribute. Since it is put between the two
ends of a text before it is read, this holds of the patterns that are expressions by themselves. Two
kinds of patterns are treated otherwise: one that ends in an open comment is refused, although it is
an expression, and one that ends the group around it is accepted, although it is none, so that a
part of a value is enough.
-/

namespace FederatedAccess

namespace Rule

section

variable [Pattern.SizeLimit] {name pattern : String}

/-- The rule can be evaluated when its pattern is an expression by itself, does not swallow the
closing, and is within the limits with what is put around it. -/
theorem validate_pattern_iff (hname : Text.isBlankText name = false)
    (hopen : ¬Pattern.ClosesUnopened pattern) :
    (text name pattern .pattern).validate = .ok () ↔
      ∃ item, Pattern.expression? pattern = some item ∧ ¬Pattern.LosesClosing pattern ∧
        item.depth + 2 ≤ Pattern.mostLevels ∧
        Pattern.SizeLimit.admits (Pattern.anchored pattern) = true := by
  rw [validate_ok_iff, isEvaluable_pattern_iff, and_iff_right hname, Option.isSome_iff_exists]
  constructor
  · rintro ⟨found, hfound⟩
    obtain ⟨item, hitem, hkept, hdepth, hadmits, -⟩ :=
      (Pattern.ofText?_eq_some_iff hopen).1 hfound
    exact ⟨item, hitem, hkept, hdepth, hadmits⟩
  · rintro ⟨item, hitem, hkept, hdepth, hadmits⟩
    exact ⟨_, (Pattern.ofText?_eq_some_iff hopen).2
      ⟨item, hitem, hkept, hdepth, hadmits, rfl⟩⟩

theorem mem_met_pattern {tokens : TokenSet} {token : Token} :
    token ∈ (text name pattern .pattern).met tokens ↔
      token ∈ tokens ∧ ∃ value, token.attribute? name = some value ∧
        ∃ found, Pattern.ofText? pattern = some found ∧ found.matchesText value = true := by
  rw [met, metWith, matching]
  have hget : Dictionary.get? (Catalog.empty : Patterns) pattern = none := rfl
  rw [hget, Option.none_or]
  cases Pattern.ofText? pattern with
  | none => simp
  | some found =>
    simp only [carrying, Catalog.mem_filter, Option.some.injEq, exists_eq_left']
    cases token.attribute? name <;> simp

/-- **Whole values.** A pattern that does not end the group around it makes a rule that can be
evaluated exactly when it is an expression by itself, does not swallow the closing in a comment, and
is not too much with what is put around it: the nesting must stay within its bound, and the limit on
compiled expressions must admit the whole. The pattern is then readable by itself, and the rule is
met by the tokens whose value it spans. -/
theorem pattern_spans_value (hname : Text.isBlankText name = false)
    (hopen : ¬Pattern.ClosesUnopened pattern) :
    ((text name pattern .pattern).validate = .ok () ↔
        ∃ item, Pattern.expression? pattern = some item ∧ ¬Pattern.LosesClosing pattern ∧
          item.depth + 2 ≤ Pattern.mostLevels ∧
          Pattern.SizeLimit.admits (Pattern.anchored pattern) = true) ∧
      ((text name pattern .pattern).validate = .ok () →
        ∃ node, Pattern.read? pattern = some node ∧
          ∀ tokens token, token ∈ (text name pattern .pattern).met tokens ↔
            token ∈ tokens ∧ ∃ value, token.attribute? name = some value ∧ node.Spans value) := by
  refine ⟨validate_pattern_iff hname hopen, fun hok => ?_⟩
  obtain ⟨item, hitem, hkept, hdepth, hadmits⟩ := (validate_pattern_iff hname hopen).1 hok
  have hread : Pattern.read? pattern = some item.node :=
    Pattern.read?_eq_some_iff.2 ⟨item, hitem, by omega, rfl⟩
  have hmatched : Pattern.ofText? pattern = some ⟨item.anchored.node⟩ :=
    (Pattern.ofText?_eq_some_iff hopen).2 ⟨item, hitem, hkept, hdepth, hadmits, rfl⟩
  refine ⟨item.node, hread, fun tokens token => ?_⟩
  simp only [mem_met_pattern, hmatched, Option.some.injEq, exists_eq_left', Pattern.matchesText,
    Pattern.Item.anchored, Pattern.Node.occursIn_between_ends_iff]

end

/-! ## Patterns in a text -/

attribute [local instance] Pattern.SizeLimit.unlimited

def spelledBearers : TokenSet :=
  Catalog.ofList [Token.bearer "v" "b", Token.bearer "v" "ab"]

theorem either_value_spanned :
    Text.isBlankText "v" = false ∧ ¬Pattern.ClosesUnopened "a|b" ∧
      (text "v" "a|b" .pattern).validate = .ok () ∧
      Token.bearer "v" "b" ∈ (text "v" "a|b" .pattern).met spelledBearers ∧
      Token.bearer "v" "ab" ∉ (text "v" "a|b" .pattern).met spelledBearers := by
  have hname : Text.isBlankText "v" = false := by decide
  have hopen : ¬Pattern.ClosesUnopened "a|b" := by
    have hread : (Pattern.expression? "a|b").isSome = true := by decide +kernel
    obtain ⟨item, hitem⟩ := Option.isSome_iff_exists.1 hread
    exact Pattern.not_closesUnopened hitem
  have hok : (text "v" "a|b" .pattern).validate = .ok () :=
    validate_ok_iff.2 (isEvaluable_pattern_iff.2 ⟨hname, by decide +kernel⟩)
  obtain ⟨node, hread, hmet⟩ := (pattern_spans_value hname hopen).2 hok
  have hspans : (Pattern.read? "a|b").all
      (fun node => node.Spans "b" ∧ ¬node.Spans "ab") = true := by
    decide +kernel
  rw [hread, Option.all_some, decide_eq_true_iff] at hspans
  refine ⟨hname, hopen, hok, ?_, ?_⟩
  · rw [hmet]
    refine ⟨(Catalog.mem_ofList fun _ _ => Token.ext_text).2 (by simp), "b", ?_, hspans.1⟩
    exact Token.attribute?_bearer_iff.2 ⟨by decide, rfl⟩
  · rw [hmet]
    rintro ⟨-, value, hvalue, hvalue'⟩
    obtain ⟨-, rfl⟩ := Token.attribute?_bearer_iff.1 hvalue
    exact hspans.2 hvalue'

/-- **Put in a text.** A pattern that is no expression can be accepted and be met by a part of a
value, and an expression can be refused. -/
theorem pattern_put_in_text :
    (Pattern.read? "a)|(?:b" = none ∧ (text "v" "a)|(?:b" .pattern).validate = .ok () ∧
        Token.bearer "v" "ab" ∈ (text "v" "a)|(?:b" .pattern).met spelledBearers) ∧
      (Pattern.read? "(?x)a#").isSome = true ∧
        (text "v" "(?x)a#" .pattern).validate ≠ .ok () := by
  refine ⟨⟨?_, ?_, ?_⟩, ?_, ?_⟩
  · have hnone : (Pattern.read? "a)|(?:b").isNone = true := by decide +kernel
    exact Option.isNone_iff_eq_none.1 hnone
  · exact validate_ok_iff.2 (isEvaluable_pattern_iff.2 ⟨by decide, by decide +kernel⟩)
  · have hmatches : (Pattern.ofText? "a)|(?:b").any (·.matchesText "ab") = true := by decide +kernel
    obtain ⟨found, hfound, hmatch⟩ := (Option.any_eq_true _ _).1 hmatches
    refine mem_met_pattern.2 ⟨?_, "ab", ?_, found, hfound, hmatch⟩
    · exact (Catalog.mem_ofList fun _ _ => Token.ext_text).2 (by simp)
    · exact Token.attribute?_bearer_iff.2 ⟨by decide, rfl⟩
  · decide +kernel
  · rw [Ne, validate_ok_iff, isEvaluable_pattern_iff]
    decide +kernel

end Rule

end FederatedAccess
