import FederatedAccess.Policy
import FederatedAccess.Proofs.Results
import FederatedAccess.Proofs.Rule.Meaning

/-!
# Patterns that are read once

The patterns of a rule are collected from left to right, each at its first occurrence. Whatever was
collected before, a rule leaves the pattern of each of its texts and nothing else
(`adds_of_addPatterns`), and it fails only if it names no attribute somewhere or holds a pattern
that cannot be read (`exists_addPatterns`).

What was collected is what reading the same text again would give. That is all that an evaluation
needs to know about it (`metWith_of_faithful`), so a policy decides as its rule does.
-/

namespace FederatedAccess

theorem Dictionary.contains_iff {α : Type} {dictionary : Dictionary α} {name : String} :
    dictionary.contains name = true ↔ ∃ value, dictionary.get? name = some value := by
  rw [Catalog.contains_iff]
  constructor
  · rintro ⟨⟨found, value⟩, hmem, rfl⟩
    exact ⟨value, get?_of_mem hmem⟩
  · rintro ⟨value, hvalue⟩
    exact ⟨(name, value), get?_eq_some_iff.1 hvalue, rfl⟩

namespace Rule

/-! ## Leaves -/

mutual
/-- The leaves of a rule, from left to right. -/
def leaves : Rule → List Rule
  | boolean name operator => [boolean name operator]
  | numeric name expected operator => [numeric name expected operator]
  | text name expected operator => [text name expected operator]
  | composite rules _ => leavesOfAll rules

/-- The leaves of rules, one rule after the other. -/
def leavesOfAll : List Rule → List Rule
  | [] => []
  | rule :: rest => leaves rule ++ leavesOfAll rest
end

/-- The attribute that a leaf looks at. -/
def attributeName? : Rule → Option String
  | boolean name _ | numeric name _ _ | text name _ _ => some name
  | composite .. => none

/-- The text of the pattern that a leaf compares with. -/
def patternText? : Rule → Option String
  | text _ expected .pattern => some expected
  | _ => none

/-- The texts of all patterns of a rule. -/
def patternTexts (rule : Rule) : List String :=
  rule.leaves.filterMap patternText?

variable {found result kept : Patterns} {rule : Rule} {rules : List Rule} {name expected : String}

theorem mem_leavesOfAll {leaf : Rule} :
    leaf ∈ leavesOfAll rules ↔ ∃ rule ∈ rules, leaf ∈ rule.leaves := by
  induction rules with
  | nil => simp [leavesOfAll]
  | cons rule rest ih => simp [leavesOfAll, ih]

theorem mem_patternTexts_composite {operator : CompositeOperator} :
    expected ∈ (composite rules operator).patternTexts ↔
      ∃ rule ∈ rules, expected ∈ rule.patternTexts := by
  simp only [patternTexts, List.mem_filterMap, leaves, mem_leavesOfAll]
  constructor
  · rintro ⟨leaf, ⟨rule, hrule, hleaf⟩, htext⟩
    exact ⟨rule, hrule, leaf, hleaf, htext⟩
  · rintro ⟨rule, hrule, leaf, hleaf, htext⟩
    exact ⟨leaf, ⟨rule, hrule, hleaf⟩, htext⟩

theorem patternTexts_cons {operator : CompositeOperator} :
    (composite (rule :: rules) operator).patternTexts =
      rule.patternTexts ++ (composite rules operator).patternTexts :=
  List.filterMap_append

theorem checkAttribute_ok_iff {u : Unit} :
    checkAttribute name = .ok u ↔ Text.isBlankText name = false := by
  unfold checkAttribute
  cases Text.isBlankText name <;> simp

variable [Pattern.SizeLimit]

/-- A rule whose leaves all name an attribute and have readable patterns. -/
structure IsEvaluable (rule : Rule) : Prop where
  /-- No leaf goes without the name of an attribute. -/
  named : ∀ leaf ∈ rule.leaves, ∀ name, leaf.attributeName? = some name →
    Text.isBlankText name = false
  /-- Every pattern can be read. -/
  readable : ∀ expected ∈ rule.patternTexts, (Pattern.ofText? expected).isSome = true

theorem isEvaluable_composite_iff {operator : CompositeOperator} :
    (composite rules operator).IsEvaluable ↔ ∀ rule ∈ rules, rule.IsEvaluable := by
  constructor
  · intro h rule hrule
    constructor
    · intro leaf hleaf
      exact h.named leaf (mem_leavesOfAll.2 ⟨rule, hrule, hleaf⟩)
    · intro expected hexpected
      exact h.readable expected (mem_patternTexts_composite.2 ⟨rule, hrule, hexpected⟩)
  · intro h
    constructor
    · intro leaf hleaf
      obtain ⟨rule, hrule, hleaf⟩ := mem_leavesOfAll.1 hleaf
      exact (h rule hrule).named leaf hleaf
    · intro expected hexpected
      obtain ⟨rule, hrule, hexpected⟩ := mem_patternTexts_composite.1 hexpected
      exact (h rule hrule).readable expected hexpected

/-- A leaf that stands alone names an attribute and has a readable pattern, if any. -/
theorem isEvaluable_leaf_iff {leaf : Rule} (hleaf : leaf.leaves = [leaf])
    (hname : leaf.attributeName? = some name) :
    leaf.IsEvaluable ↔ Text.isBlankText name = false ∧
      ∀ expected, leaf.patternText? = some expected → (Pattern.ofText? expected).isSome = true := by
  have hnamed : (∀ l ∈ leaf.leaves, ∀ n, l.attributeName? = some n → Text.isBlankText n = false) ↔
      Text.isBlankText name = false := by
    simp [hleaf, hname]
  have htexts : ∀ expected, expected ∈ leaf.patternTexts ↔ leaf.patternText? = some expected := by
    intro expected
    simp [patternTexts, hleaf]
  constructor
  · intro h
    exact ⟨hnamed.1 h.named, fun expected hexpected => h.readable _ ((htexts _).2 hexpected)⟩
  · rintro ⟨hblank, hreadable⟩
    exact ⟨hnamed.2 hblank, fun expected hexpected => hreadable _ ((htexts _).1 hexpected)⟩

/-! ## Collecting -/

/-- Every pattern is what its text reads as. -/
def Faithful (kept : Patterns) : Prop :=
  ∀ expected pattern, kept.get? expected = some pattern → Pattern.ofText? expected = some pattern

theorem faithful_empty : Faithful Catalog.empty := by
  intro expected pattern h
  cases h

/-- The patterns of some texts were added, and nothing else was changed. -/
def Adds (texts : List String) (found result : Patterns) : Prop :=
  ∀ expected, result.get? expected =
    if expected ∈ texts then Pattern.ofText? expected else found.get? expected

theorem Adds.faithful {texts : List String} (h : Adds texts found result)
    (hfound : Faithful found) : Faithful result := by
  intro expected pattern hget
  rw [h expected] at hget
  split at hget
  · exact hget
  · exact hfound expected pattern hget

theorem Adds.trans {texts more : List String} {middle : Patterns} (h : Adds texts found middle)
    (h' : Adds more middle result) : Adds (texts ++ more) found result := by
  intro expected
  rw [h' expected, h expected]
  by_cases htexts : expected ∈ texts <;> by_cases hmore : expected ∈ more <;>
    simp [htexts, hmore]

theorem adds_nil (found : Patterns) : Adds [] found found := by
  intro expected
  rw [if_neg List.not_mem_nil]

/-- A pattern that is there already is what would be added. -/
theorem adds_of_contains (hfound : Faithful found) (hcontains : found.contains expected = true) :
    Adds [expected] found found := by
  intro other
  split
  · rename_i hother
    obtain rfl := List.mem_singleton.1 hother
    obtain ⟨pattern, hpattern⟩ := Dictionary.contains_iff.1 hcontains
    rw [hpattern, hfound other pattern hpattern]
  · rfl

theorem adds_put {pattern : Pattern} (hpattern : Pattern.ofText? expected = some pattern) :
    Adds [expected] found (found.put expected pattern) := by
  intro other
  simp only [Dictionary.get?_put, List.mem_singleton]
  split
  · rename_i hother
    rw [hother, hpattern]
  · rfl

/-- A leaf that compares with no pattern is checked and adds nothing. -/
theorem addPatterns_plain_ok_iff {leaf : Rule} (hleaf : leaf.leaves = [leaf])
    (hname : leaf.attributeName? = some name) (hplain : leaf.patternText? = none) :
    addPatterns found leaf = .ok result ↔ leaf.IsEvaluable ∧ found = result := by
  have heq : addPatterns found leaf = (checkAttribute name >>= fun _ => pure found) := by
    cases leaf with
    | boolean | numeric =>
      cases hname
      rfl
    | text _ _ operator =>
      cases hname
      cases operator with
      | compare relation caseless => simp [addPatterns]
      | pattern => cases hplain
    | composite => cases hname
  rw [heq, except_bind_ok_iff, isEvaluable_leaf_iff hleaf hname, hplain]
  simp only [checkAttribute_ok_iff, except_pure_ok_iff, exists_and_left, exists_const]
  simp

/-- A pattern is read unless it is there already. -/
theorem addPatterns_pattern (hname : Text.isBlankText name = false) :
    addPatterns found (text name expected .pattern) =
      if found.contains expected then .ok found
      else match Pattern.ofText? expected with
        | some pattern => .ok (found.put expected pattern)
        | none => .error (.invalidPattern name) := by
  have hcheck : checkAttribute name = .ok () := checkAttribute_ok_iff.2 hname
  by_cases hcontains : found.contains expected = true
  · simp [addPatterns, hcheck, hcontains, bind, Except.bind, pure, Except.pure]
  · cases hpattern : Pattern.ofText? expected <;>
      simp [addPatterns, hcheck, hcontains, hpattern, bind, Except.bind, pure, Except.pure, throw,
        throwThe, MonadExceptOf.throw]

theorem isEvaluable_pattern_iff :
    (text name expected .pattern).IsEvaluable ↔
      Text.isBlankText name = false ∧ (Pattern.ofText? expected).isSome = true := by
  rw [isEvaluable_leaf_iff rfl rfl]
  simp [patternText?]

theorem named_of_addPatterns_text {operator : TextOperator}
    (h : addPatterns found (text name expected operator) = .ok result) :
    Text.isBlankText name = false := by
  rw [addPatterns, except_bind_ok_iff] at h
  obtain ⟨u, hu, -⟩ := h
  exact checkAttribute_ok_iff.1 hu

theorem adds_of_addPatterns_pattern (hfound : Faithful found)
    (h : addPatterns found (text name expected .pattern) = .ok result) :
    (text name expected .pattern).IsEvaluable ∧ Adds [expected] found result := by
  have hname := named_of_addPatterns_text h
  rw [addPatterns_pattern hname] at h
  rw [isEvaluable_pattern_iff]
  split at h
  · rename_i hcontains
    obtain ⟨pattern, hpattern⟩ := Dictionary.contains_iff.1 hcontains
    obtain rfl := Except.ok.inj h
    rw [hfound expected pattern hpattern]
    exact ⟨⟨hname, rfl⟩, adds_of_contains hfound hcontains⟩
  · cases hpattern : Pattern.ofText? expected with
    | some pattern =>
      rw [hpattern] at h
      obtain rfl := Except.ok.inj h
      exact ⟨⟨hname, rfl⟩, adds_put hpattern⟩
    | none =>
      rw [hpattern] at h
      cases h

/-- **What is collected.** A rule whose patterns were collected can be evaluated, and the patterns
of its texts were added. -/
theorem adds_of_addPatterns (hfound : Faithful found) (h : addPatterns found rule = .ok result) :
    rule.IsEvaluable ∧ Adds rule.patternTexts found result := by
  induction rule using Rule.induction generalizing found result with
  | boolean | numeric =>
    obtain ⟨hevaluable, rfl⟩ := (addPatterns_plain_ok_iff rfl rfl rfl).1 h
    exact ⟨hevaluable, adds_nil found⟩
  | text name expected operator =>
    cases operator with
    | compare relation caseless =>
      obtain ⟨hevaluable, rfl⟩ := (addPatterns_plain_ok_iff rfl rfl rfl).1 h
      exact ⟨hevaluable, adds_nil found⟩
    | pattern => exact adds_of_addPatterns_pattern hfound h
  | composite rules operator ih =>
    rw [isEvaluable_composite_iff]
    rw [addPatterns] at h
    -- rule after rule, each starts with what the ones before it left
    induction rules generalizing found with
    | nil =>
      obtain rfl := except_pure_ok_iff.1 h
      exact ⟨nofun, adds_nil found⟩
    | cons rule rest ihrest =>
      rw [addPatternsOfAll, except_bind_ok_iff] at h
      obtain ⟨middle, hmiddle, hresult⟩ := h
      obtain ⟨hrule, hadds⟩ := ih rule List.mem_cons_self hfound hmiddle
      obtain ⟨hrest, haddsrest⟩ := ihrest
        (fun other hother => ih other (List.mem_cons_of_mem _ hother)) (hadds.faithful hfound)
        hresult
      rw [List.forall_mem_cons, patternTexts_cons]
      exact ⟨⟨hrule, hrest⟩, hadds.trans haddsrest⟩

/-- A rule that can be evaluated has its patterns collected, whatever was collected before. -/
theorem exists_addPatterns (hrule : rule.IsEvaluable) (found : Patterns) :
    ∃ result, addPatterns found rule = .ok result := by
  induction rule using Rule.induction generalizing found with
  | boolean | numeric => exact ⟨found, (addPatterns_plain_ok_iff rfl rfl rfl).2 ⟨hrule, rfl⟩⟩
  | text name expected operator =>
    cases operator with
    | compare relation caseless =>
      exact ⟨found, (addPatterns_plain_ok_iff rfl rfl rfl).2 ⟨hrule, rfl⟩⟩
    | pattern =>
      obtain ⟨hname, hreadable⟩ := isEvaluable_pattern_iff.1 hrule
      obtain ⟨pattern, hpattern⟩ := Option.isSome_iff_exists.1 hreadable
      rw [addPatterns_pattern hname, hpattern]
      split
      · exact ⟨_, rfl⟩
      · exact ⟨_, rfl⟩
  | composite rules operator ih =>
    rw [isEvaluable_composite_iff] at hrule
    rw [addPatterns]
    induction rules generalizing found with
    | nil => exact ⟨found, rfl⟩
    | cons rule rest ihrest =>
      rw [List.forall_mem_cons] at hrule
      obtain ⟨middle, hmiddle⟩ := ih rule List.mem_cons_self hrule.1 found
      obtain ⟨result, hresult⟩ := ihrest
        (fun other hother => ih other (List.mem_cons_of_mem _ hother)) hrule.2 middle
      refine ⟨result, ?_⟩
      rw [addPatternsOfAll, hmiddle]
      exact hresult

theorem patterns_ok_iff :
    (∃ result, rule.patterns = .ok result) ↔ rule.IsEvaluable := by
  constructor
  · rintro ⟨result, hresult⟩
    exact (adds_of_addPatterns faithful_empty hresult).1
  · intro hrule
    exact exists_addPatterns hrule Catalog.empty

theorem validate_ok_iff : rule.validate = .ok () ↔ rule.IsEvaluable := by
  rw [← patterns_ok_iff, validate]
  constructor
  · intro h
    cases hpatterns : rule.patterns with
    | error e =>
      rw [hpatterns] at h
      cases h
    | ok kept => exact ⟨kept, rfl⟩
  · rintro ⟨kept, hkept⟩
    rw [hkept]
    rfl

/-! ## Evaluating -/

/-- **Kept or not.** Patterns that are kept faithfully make no difference. -/
theorem metWith_of_faithful (hkept : Faithful kept) (rule : Rule) (tokens : TokenSet) :
    rule.metWith kept tokens = rule.met tokens := by
  unfold met
  induction rule using Rule.induction with
  | boolean | numeric => rfl
  | text name expected operator =>
    cases operator with
    | compare relation caseless => rfl
    | pattern =>
      have hread :
          (kept.get? expected).or (Pattern.ofText? expected) = Pattern.ofText? expected := by
        cases hget : kept.get? expected with
        | none => rfl
        | some pattern => rw [hkept expected pattern hget, Option.some_or]
      rw [metWith, metWith, matching, matching, hread]
      rfl
  | composite rules operator ih =>
    rw [metWith, metWith, metEach_eq_map, metEach_eq_map, List.map_congr_left ih]

end Rule

namespace AttributePolicy

section

variable [Pattern.SizeLimit] {rule : Rule} {policy : AttributePolicy}

theorem ofRule_ok (h : ofRule rule = .ok policy) :
    policy.rule = rule ∧ rule.patterns = .ok policy.patterns := by
  unfold ofRule at h
  split at h
  · rename_i found hfound
    cases h
    exact ⟨rfl, hfound⟩
  · cases h

theorem exists_ofRule_iff : (∃ policy, ofRule rule = .ok policy) ↔ rule.IsEvaluable := by
  rw [← Rule.patterns_ok_iff]
  constructor
  · rintro ⟨policy, hpolicy⟩
    exact ⟨policy.patterns, (ofRule_ok hpolicy).2⟩
  · rintro ⟨found, hfound⟩
    unfold ofRule
    split
    · exact ⟨_, rfl⟩
    · rename_i e herror
      rw [hfound] at herror
      cases herror

/-- The patterns of a policy are those of the texts in its rule, each once and as it reads. -/
structure KeepsPatterns (policy : AttributePolicy) (rule : Rule) : Prop where
  /-- No text has two patterns. -/
  nodup : policy.patterns.names.Nodup
  /-- The texts are those of the rule. -/
  mem_names_iff : ∀ expected, expected ∈ policy.patterns.names ↔ expected ∈ rule.patternTexts
  /-- Each is kept with what it reads as. -/
  get?_eq : ∀ expected ∈ rule.patternTexts, ∃ pattern,
    Pattern.ofText? expected = some pattern ∧ policy.patterns.get? expected = some pattern

theorem keepsPatterns_of_adds (hrule : rule.IsEvaluable)
    (hadds : Rule.Adds rule.patternTexts Catalog.empty policy.patterns) :
    policy.KeepsPatterns rule := by
  have hread : ∀ expected ∈ rule.patternTexts, ∃ pattern,
      Pattern.ofText? expected = some pattern ∧ policy.patterns.get? expected = some pattern := by
    intro expected hexpected
    obtain ⟨pattern, hpattern⟩ := Option.isSome_iff_exists.1 (hrule.readable expected hexpected)
    have hget := hadds expected
    rw [if_pos hexpected, hpattern] at hget
    exact ⟨pattern, hpattern, hget⟩
  refine ⟨Catalog.nodup_keys policy.patterns, fun expected => ⟨?_, ?_⟩, hread⟩
  · intro hname
    obtain ⟨⟨found, pattern⟩, hmem, rfl⟩ := List.mem_map.1 hname
    have hget := hadds found
    rw [Dictionary.get?_of_mem hmem] at hget
    by_contra habsent
    rw [if_neg habsent] at hget
    cases hget
  · intro hexpected
    obtain ⟨pattern, -, hget⟩ := hread expected hexpected
    exact List.mem_map.2 ⟨_, Dictionary.get?_eq_some_iff.1 hget, rfl⟩

/-- **Reading patterns beforehand.** A rule makes a policy, and passes its check, exactly when all
its leaves name attributes and all its patterns can be read. The policy keeps these patterns and no
others, and is satisfied by the tokens that meet the rule when each pattern is read as it comes. -/
theorem ofRule_transparent (rule : Rule) :
    ((∃ policy, ofRule rule = .ok policy) ↔ rule.IsEvaluable) ∧
    (rule.validate = .ok () ↔ rule.IsEvaluable) ∧
    ∀ policy, ofRule rule = .ok policy →
      policy.KeepsPatterns rule ∧
      ∀ tokens : TokenSet, (Policy.attributes policy).satisfiedBy tokens = rule.met tokens := by
  refine ⟨exists_ofRule_iff, Rule.validate_ok_iff, ?_⟩
  intro policy hpolicy
  obtain ⟨hrule, hpatterns⟩ := ofRule_ok hpolicy
  obtain ⟨hevaluable, hadds⟩ := Rule.adds_of_addPatterns Rule.faithful_empty hpatterns
  refine ⟨keepsPatterns_of_adds hevaluable hadds, fun tokens => ?_⟩
  rw [← hrule]
  exact Rule.metWith_of_faithful (hadds.faithful Rule.faithful_empty) policy.rule tokens

end

/-! ## One pattern in three places -/

attribute [local instance] Pattern.SizeLimit.unlimited

/-- The same text as a pattern on two attributes and as a plain text on a third, beside another
pattern. -/
def sharedRule : Rule :=
  .composite [.text "name" "J.*n" .pattern, .composite [.text "nickname" "J.*n" .pattern] .nor,
    .text "city" "Ber(lin|n)" .pattern, .text "title" "J.*n" (.compare .equals false)] .or

/-- Two patterns are kept for it, and it is met all the same. -/
theorem shared_pattern_kept_once :
    ∃ policy, ofRule sharedRule = .ok policy ∧
      policy.patterns.names.Perm ["J.*n", "Ber(lin|n)"] ∧
      ∀ tokens : TokenSet, (Policy.attributes policy).satisfiedBy tokens = sharedRule.met tokens := by
  obtain ⟨hmade, -, hkeeps⟩ := ofRule_transparent sharedRule
  have hevaluable : sharedRule.IsEvaluable :=
    { named := by decide +kernel
      readable := by decide +kernel }
  obtain ⟨policy, hpolicy⟩ := hmade.2 hevaluable
  obtain ⟨hpatterns, hsame⟩ := hkeeps policy hpolicy
  have hnodup : ["J.*n", "Ber(lin|n)"].Nodup := by decide
  refine ⟨policy, hpolicy, (List.perm_ext_iff_of_nodup hpatterns.nodup hnodup).2 ?_, hsame⟩
  intro expected
  have htexts : sharedRule.patternTexts = ["J.*n", "J.*n", "Ber(lin|n)"] := rfl
  rw [hpatterns.mem_names_iff, htexts]
  simp

end AttributePolicy

end FederatedAccess
