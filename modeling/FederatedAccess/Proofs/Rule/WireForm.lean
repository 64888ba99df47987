import FederatedAccess.Proofs.Json.Room
import FederatedAccess.Proofs.Number.Decimal
import FederatedAccess.Proofs.Rule.Meaning
import FederatedAccess.Rule.WireForm

/-!
# Rules read back

A written rule is read as this rule (`read?_toJson`), by a reader that may go as deep as the rule
is written. A rule that was read need not be written as deep as it was given: a combination that
leaves out its rules is written with an empty list, which is one level more. But a rule and the list
of rules in it take two levels together, so where rules stand at even levels there is room for the
list (`depth_toJson_le`).
-/

namespace FederatedAccess.Rule

open Json.Draft

variable {levels : Nat} {inner : Bool} {draft : Json.Draft} {rule : Rule} {rules : List Rule}

/-! ## What is written -/

theorem listToJson_eq_map (rules : List Rule) : listToJson rules = rules.map toJson := by
  induction rules with
  | nil => rfl
  | cons rule rest ih => rw [listToJson, ih, List.map_cons]

/-- Numbers are written as texts. -/
theorem isIntegral_toJson (rule : Rule) : rule.toJson.isIntegral = true := by
  induction rule using Rule.induction with
  | boolean | numeric | text => rfl
  | composite rules operator ih =>
    have hrules : Json.allIntegral (listToJson rules) = true := by
      rw [listToJson_eq_map, Json.allIntegral_iff]
      intro v hv
      obtain ⟨rule, hrule, rfl⟩ := List.mem_map.1 hv
      exact ih rule hrule
    simp [toJson, Json.isIntegral, Json.allIntegralMembers, hrules]

/-- A combination is two levels deeper than its rules. -/
theorem depth_composite_le_iff {operator : CompositeOperator} :
    (composite rules operator).toJson.depth ≤ levels + 2 ↔
      ∀ rule ∈ rules, rule.toJson.depth ≤ levels := by
  have hdepth : (composite rules operator).toJson.depth =
      Json.depthItems (listToJson rules) + 2 := by
    simp [toJson, Json.depth, Json.depthMembers]
  rw [hdepth, Nat.add_le_add_iff_right, listToJson_eq_map, Json.depthItems_le_iff,
    List.forall_mem_map]

/-! ## What is read -/

/-- A rule without parts takes one level. -/
theorem depth_of_booleanOfDraft? (h : booleanOfDraft? draft = some rule) :
    rule.toJson.depth = 1 := by
  obtain ⟨found, -, h⟩ := Option.bind_eq_some_iff.1 h
  split at h
  · obtain ⟨name, -, h⟩ := Option.bind_eq_some_iff.1 h
    obtain ⟨operator, -, h⟩ := Option.bind_eq_some_iff.1 h
    cases h
    rfl
  · cases h

theorem depth_of_numericOfDraft? (h : numericOfDraft? draft = some rule) :
    rule.toJson.depth = 1 := by
  obtain ⟨found, -, h⟩ := Option.bind_eq_some_iff.1 h
  split at h
  · obtain ⟨name, -, h⟩ := Option.bind_eq_some_iff.1 h
    obtain ⟨expected, -, h⟩ := Option.bind_eq_some_iff.1 h
    obtain ⟨operator, -, h⟩ := Option.bind_eq_some_iff.1 h
    cases h
    rfl
  · cases h

theorem depth_of_textOfDraft? (h : textOfDraft? draft = some rule) : rule.toJson.depth = 1 := by
  obtain ⟨found, -, h⟩ := Option.bind_eq_some_iff.1 h
  split at h
  · obtain ⟨name, -, h⟩ := Option.bind_eq_some_iff.1 h
    obtain ⟨expected, -, h⟩ := Option.bind_eq_some_iff.1 h
    obtain ⟨operator, -, h⟩ := Option.bind_eq_some_iff.1 h
    cases h
    rfl
  · cases h

/-- A combination is read from parts of parts, or has no rules. -/
theorem of_compositeOfDraft? {part? : Json.Draft → Option Rule}
    (h : compositeOfDraft? part? draft = some rule) :
    ∃ rules operator, rule = composite rules operator ∧
      ∀ rule ∈ rules, ∃ list ∈ draft.parts, ∃ part ∈ list.parts, part? part = some rule := by
  obtain ⟨found, hfound, h⟩ := Option.bind_eq_some_iff.1 h
  split at h
  · rename_i list operator
    obtain ⟨rules, hrules, h⟩ := Option.bind_eq_some_iff.1 h
    obtain ⟨operator, -, h⟩ := Option.bind_eq_some_iff.1 h
    cases h
    refine ⟨rules, operator, rfl, fun rule hrule => ?_⟩
    cases list with
    | none =>
      cases hrules
      cases hrule
    | some list =>
      have hlist : list ∈ draft.parts := mem_parts_of_record? hfound List.mem_cons_self
      obtain ⟨part, hpart, hread⟩ := exists_part_of_items? hrules hrule
      exact ⟨list, hlist, part, hpart, hread⟩
  · cases h

/-- **Depth.** A rule that was read at an even level is not written deeper than there was room. -/
theorem depth_toJson_le {half : Nat} (hfits : draft.FitsIn (2 * half))
    (h : read? levels inner draft = some rule) : rule.toJson.depth ≤ 2 * half := by
  induction levels generalizing inner draft rule half with
  | zero => cases h
  | succ levels ih =>
    obtain ⟨⟨found, rest⟩, htagged, h⟩ := Option.bind_eq_some_iff.1 h
    obtain ⟨kind, -, h⟩ := Option.bind_eq_some_iff.1 h
    obtain ⟨hfound, hparts⟩ := parts_of_tagged? htagged
    -- the tag takes a level, so there are two
    have hpos : 0 < 2 * half := (hfits.part hfound).1
    obtain ⟨half, rfl⟩ : ∃ less, half = less + 1 := ⟨half - 1, by omega⟩
    split at h
    · rw [depth_of_booleanOfDraft? h]
      omega
    · rw [depth_of_numericOfDraft? h]
      omega
    · rw [depth_of_textOfDraft? h]
      omega
    · obtain ⟨rules, operator, rfl, hrules⟩ := of_compositeOfDraft? h
      refine depth_composite_le_iff.2 fun rule hrule => ?_
      obtain ⟨list, hlist, part, hpart, hread⟩ := hrules rule hrule
      exact ih ((hfits.part (hparts hlist)).2.part hpart).2 hread

/-! ## There and back -/

/-- **Rules.** A written rule is read as this rule. -/
theorem read?_toJson (rule : Rule) (h : rule.toJson.depth ≤ levels) :
    read? levels inner (ofJson rule.toJson) = some rule := by
  induction rule using Rule.induction generalizing levels inner with
  | boolean name operator =>
    obtain ⟨levels, rfl⟩ : ∃ more, levels = more + 1 := Nat.exists_eq_add_of_le' h
    cases operator <;> rfl
  | numeric name expected operator =>
    obtain ⟨levels, rfl⟩ : ∃ more, levels = more + 1 := Nat.exists_eq_add_of_le' h
    have hread : read? (levels + 1) inner (ofJson (numeric name expected operator).toJson) =
        (Decimal.ofText? expected.text).bind fun found =>
          (operator? NumericOperator.all NumericOperator.name (.string operator.name)).bind
            fun operator => some (numeric name found operator) := rfl
    rw [hread, expected.ofText?_text, Option.bind_some]
    cases operator <;> rfl
  | text name expected operator =>
    obtain ⟨levels, rfl⟩ : ∃ more, levels = more + 1 := Nat.exists_eq_add_of_le' h
    obtain ⟨relation, caseless⟩ | _ := operator
    · cases relation <;> cases caseless <;> rfl
    · rfl
  | composite rules operator ih =>
    obtain ⟨levels, rfl⟩ : ∃ more, levels = more + 2 :=
      ⟨levels - 2, by simp only [toJson, Json.depth, Json.depthMembers] at h; omega⟩
    have hrules : items? deepest (read? (levels + 1) true)
        (ofJson (.array (listToJson rules))) = some rules := by
      rw [listToJson_eq_map]
      refine items?_ofJson (by decide) fun rule hrule => ih rule hrule ?_
      exact Nat.le_succ_of_le (depth_composite_le_iff.1 h rule hrule)
    have hread : read? (levels + 2) inner (ofJson (composite rules operator).toJson) =
        (items? deepest (read? (levels + 1) true) (ofJson (.array (listToJson rules)))).bind
          fun found => (operator? CompositeOperator.all CompositeOperator.name
            (.string operator.name)).bind fun operator => some (composite found operator) := rfl
    rw [hread, hrules, Option.bind_some]
    cases operator <;> rfl

end FederatedAccess.Rule
