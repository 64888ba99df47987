import FederatedAccess.Policy.Specifier
import FederatedAccess.Proofs.Json.Room
import FederatedAccess.Proofs.Rule.WireForm

/-!
# Stored policies

Whatever text a specifier was read from, the text that is written for it is read as the same
specifier (`stored_policy_survives`). A text may say the same in many ways, and some of them take
fewer levels than what is written: a policy without its claims or members, a combination without its
rules. None of them takes so few that the written text is beyond the limits (`depth_toJson_le`).
-/

namespace FederatedAccess.PolicySpecifier

open Json.Draft

variable {draft : Json.Draft} {specifier : PolicySpecifier}

/-! ## What is written -/

theorem isIntegral_toJson (specifier : PolicySpecifier) :
    specifier.toJson.isIntegral = true := by
  cases specifier with
  | singleToken claims =>
    have hclaims : Json.allIntegralMembers (claims.mapValues Json.string).toList = true := by
      rw [Json.allIntegralMembers_iff]
      intro m hm
      obtain ⟨claim, -, rfl⟩ := List.mem_map.1 hm
      rfl
    simp [toJson, Json.isIntegral, Json.allIntegralMembers, hclaims]
  | attributes rule =>
    simp [toJson, Json.isIntegral, Json.allIntegralMembers, rule.isIntegral_toJson]
  | federation members home name =>
    have hmembers : Json.allIntegral (members.toList.map Json.string) = true := by
      rw [Json.allIntegral_iff]
      intro v hv
      obtain ⟨member, -, rfl⟩ := List.mem_map.1 hv
      rfl
    simp [toJson, Json.isIntegral, Json.allIntegralMembers, hmembers]

theorem depth_singleToken_le (claims : Dictionary String) :
    (singleToken claims).toJson.depth ≤ 2 := by
  have hclaims : Json.depthMembers (claims.mapValues Json.string).toList ≤ 0 := by
    rw [Json.depthMembers_le_iff]
    intro m hm
    obtain ⟨claim, -, rfl⟩ := List.mem_map.1 hm
    exact Nat.le_refl 0
  simp only [toJson, Json.depth, Json.depthMembers]
  omega

theorem depth_federation_le (members : TextSet) (home name : String) :
    (federation members home name).toJson.depth ≤ 2 := by
  have hmembers : Json.depthItems (members.toList.map Json.string) ≤ 0 := by
    rw [Json.depthItems_le_iff]
    intro v hv
    obtain ⟨member, -, rfl⟩ := List.mem_map.1 hv
    exact Nat.le_refl 0
  simp only [toJson, Json.depth, Json.depthMembers]
  omega

theorem depth_attributes (rule : Rule) :
    (attributes rule).toJson.depth = rule.toJson.depth + 1 := by
  simp [toJson, Json.depth, Json.depthMembers]

/-! ## What is read -/

/-- An attribute-oriented policy is read from a part that is a rule. -/
theorem of_attributesOfDraft? (h : attributesOfDraft? draft = some specifier) :
    ∃ rule, specifier = attributes rule ∧
      ∃ part ∈ draft.parts, Rule.read? deepest true part = some rule := by
  obtain ⟨found, hfound, h⟩ := Option.bind_eq_some_iff.1 h
  split at h
  · rename_i part
    obtain ⟨rule, hrule, h⟩ := Option.bind_eq_some_iff.1 h
    cases h
    obtain ⟨part, rfl, hread⟩ := Option.bind_eq_some_iff.1 hrule
    exact ⟨rule, rfl, part, mem_parts_of_record? hfound List.mem_cons_self, hread⟩
  · cases h

theorem of_singleTokenOfDraft? (h : singleTokenOfDraft? draft = some specifier) :
    ∃ claims, specifier = singleToken claims := by
  obtain ⟨found, -, h⟩ := Option.bind_eq_some_iff.1 h
  split at h
  · obtain ⟨claims, -, h⟩ := Option.bind_eq_some_iff.1 h
    cases h
    exact ⟨claims, rfl⟩
  · cases h

theorem of_federationOfDraft? (h : federationOfDraft? draft = some specifier) :
    ∃ members home name, specifier = federation members home name := by
  obtain ⟨found, -, h⟩ := Option.bind_eq_some_iff.1 h
  split at h
  · obtain ⟨members, -, h⟩ := Option.bind_eq_some_iff.1 h
    obtain ⟨home, -, h⟩ := Option.bind_eq_some_iff.1 h
    obtain ⟨name, -, h⟩ := Option.bind_eq_some_iff.1 h
    cases h
    exact ⟨_, home, name, rfl⟩
  · cases h

theorem ofDraft?_eq (h : draft.FitsIn deepest) :
    ofDraft? draft = (do
      let (found, rest) ← draft.tagged? tag
      match ← tagName? kinds false found with
      | "STAP" => singleTokenOfDraft? rest
      | "AOAP" => attributesOfDraft? rest
      | _ => federationOfDraft? rest) := by
  have hlimits : draft.withinLimits = true := h
  rw [ofDraft?, hlimits]
  rfl

/-- **Depth.** What was read is within the limits when it is written. -/
theorem depth_toJson_le (h : ofDraft? draft = some specifier) :
    specifier.toJson.depth ≤ deepest := by
  have hfits : draft.FitsIn deepest := by
    by_contra hbeyond
    have hlimits : draft.withinLimits = false := Bool.eq_false_iff.2 hbeyond
    rw [ofDraft?, hlimits] at h
    cases h
  rw [ofDraft?_eq hfits] at h
  obtain ⟨⟨found, rest⟩, htagged, h⟩ := Option.bind_eq_some_iff.1 h
  obtain ⟨kind, -, h⟩ := Option.bind_eq_some_iff.1 h
  obtain ⟨-, hparts⟩ := parts_of_tagged? htagged
  split at h
  · obtain ⟨claims, rfl⟩ := of_singleTokenOfDraft? h
    exact Nat.le_trans (depth_singleToken_le claims) (by decide)
  · obtain ⟨rule, rfl, part, hpart, hread⟩ := of_attributesOfDraft? h
    -- below the policy, there is an even number of levels
    have hrule : rule.toJson.depth ≤ 2 * 63 :=
      Rule.depth_toJson_le (hfits.part (hparts hpart)).2 hread
    rw [depth_attributes]
    exact Nat.succ_le_succ hrule
  · obtain ⟨members, home, name, rfl⟩ := of_federationOfDraft? h
    exact Nat.le_trans (depth_federation_le members home name) (by decide)

/-! ## There and back -/

/-- **Specifiers.** A written specifier within the limits is read as this specifier. -/
theorem ofDraft?_toJson (h : specifier.toJson.depth ≤ deepest) :
    ofDraft? (ofJson specifier.toJson) = some specifier := by
  rw [ofDraft?_eq (fitsIn_ofJson h)]
  cases specifier with
  | singleToken claims =>
    have hclaims : dictionary? deepest text? (ofJson (.object (claims.mapValues .string).toList)) =
        some claims := dictionary?_ofJson (by decide) (fun _ => rfl) claims
    show (dictionary? deepest text? (ofJson (.object (claims.mapValues .string).toList))).bind
      (fun claims => some (singleToken claims)) = _
    rw [hclaims]
    rfl
  | attributes rule =>
    have hrule : Rule.read? deepest true (ofJson rule.toJson) = some rule := by
      rw [depth_attributes] at h
      exact rule.read?_toJson (Nat.le_of_succ_le h)
    show (Rule.read? deepest true (ofJson rule.toJson)).bind
      (fun rule => some (attributes rule)) = _
    rw [hrule]
    rfl
  | federation members home name =>
    have hmembers : items? deepest text? (ofJson (.array (members.toList.map .string))) =
        some members.toList := items?_ofJson (by decide) fun _ _ => rfl
    show (items? deepest text? (ofJson (.array (members.toList.map .string)))).bind
      (fun members => some (federation (Catalog.ofList members) home name)) = _
    rw [hmembers]
    exact congrArg (fun members => some (federation members home name)) members.ofList_toList

theorem ofText_ok_iff {text : String} :
    ofText text = .ok specifier ↔ ∃ draft, readText text = some draft ∧
      ofDraft? draft = some specifier := by
  rw [ofText, ofText?, Option.bind_eq_bind, ← Option.bind_eq_some_iff]
  cases (readText text).bind ofDraft? <;> simp

/-- Texts that are within the limits come through. -/
theorem ofText_text (h : specifier.toJson.depth ≤ deepest) :
    ofText specifier.toJson.text = .ok specifier :=
  ofText_ok_iff.2 ⟨_, read_text specifier.isIntegral_toJson, ofDraft?_toJson h⟩

/-! ## Policies -/

/-- A policy that was built leads back to the specifier. -/
theorem ofPolicy_of_toPolicy [Pattern.SizeLimit] {policy : Policy}
    (h : specifier.toPolicy = .ok policy) :
    ofPolicy policy = specifier := by
  cases specifier with
  | singleToken claims =>
    cases h
    rfl
  | attributes rule =>
    rw [toPolicy] at h
    unfold AttributePolicy.ofRule at h
    split at h
    · cases h
      rfl
    · cases h
  | federation members home name =>
    rw [toPolicy] at h
    unfold FederationPolicy.ofParts at h
    split at h
    · cases h
    · split at h
      · split at h
        · cases h
          rfl
        · cases h
      · cases h

/-- **Stored policies survive.** The text that is written for a specifier which was read is read as
the same specifier, with all places of its numbers, and written again it is the same text. A policy
that is built from the specifier leads back to it, and so does the policy that is built from what
was stored, which all tokens satisfy alike. -/
theorem stored_policy_survives [Pattern.SizeLimit] (text : String) (specifier : PolicySpecifier)
    (accepted : ofText text = .ok specifier) :
    ofText specifier.toJson.text = .ok specifier ∧
      (ofText specifier.toJson.text).map (fun reread => reread.toJson.text) =
        .ok specifier.toJson.text ∧
      ∀ policy, specifier.toPolicy = .ok policy →
        ofPolicy policy = specifier ∧
        ∃ reread restored, ofText (ofPolicy policy).toJson.text = .ok reread ∧
          reread.toPolicy = .ok restored ∧
          ∀ tokens, restored.satisfiedBy tokens = policy.satisfiedBy tokens := by
  obtain ⟨draft, -, hdraft⟩ := ofText_ok_iff.1 accepted
  have hreread := ofText_text (depth_toJson_le hdraft)
  refine ⟨hreread, by rw [hreread]; rfl, fun policy hpolicy => ?_⟩
  have hback := ofPolicy_of_toPolicy hpolicy
  refine ⟨hback, specifier, policy, ?_, hpolicy, fun _ => rfl⟩
  rw [hback]
  exact hreread

/-! ## An odd way to say it -/

attribute [local instance] Pattern.SizeLimit.unlimited

/-- Not all at once: a number, a choice of nothing, a truth value. -/
def oddRule : Rule :=
  .composite [.numeric "age" ⟨-150, 2, by decide, by decide⟩ .equals, .composite [] .or,
    .boolean "é" .isTrue] .nand

/-- The policy of this rule, with arrays for objects, positions and objects for names, a number with
needless zeros, an escape, and a combination that leaves out its rules. -/
def oddText : String :=
  "[\"AOAP\",[\"COMPOSITE\",[[\"NUMERIC\",\"age\",\"-0001.50\",\"EQUALS\"],"
    ++ "\x7b\"operator\":\"OR\",\"accessRuleType\":3\x7d,"
    ++ "[0,\"\\u00e9\",\x7b\"IS_TRUE\":null\x7d]],\"NAND\"]]"

/-- It is stored in the usual way, and the policy stays what it was. -/
theorem odd_policy_survives :
    ofText oddText = .ok (attributes oddRule) ∧
      ofText (attributes oddRule).toJson.text = .ok (attributes oddRule) ∧
      ∃ policy restored, (attributes oddRule).toPolicy = .ok policy ∧
        (attributes oddRule).toPolicy = .ok restored ∧ ofPolicy policy = attributes oddRule ∧
        ∀ tokens, restored.satisfiedBy tokens = policy.satisfiedBy tokens := by
  have accepted : ofText oddText = .ok (attributes oddRule) := by decide +kernel
  obtain ⟨hreread, -, hpolicies⟩ := stored_policy_survives oddText (attributes oddRule) accepted
  obtain ⟨policy, hpolicy⟩ : ∃ policy, (attributes oddRule).toPolicy = .ok policy := ⟨_, rfl⟩
  obtain ⟨hback, reread, restored, hread, hrestored, hsame⟩ := hpolicies policy hpolicy
  rw [hback, hreread] at hread
  obtain rfl : attributes oddRule = reread := Except.ok.inj hread
  exact ⟨accepted, hreread, policy, restored, hpolicy, hrestored, hback, hsame⟩

end FederatedAccess.PolicySpecifier
