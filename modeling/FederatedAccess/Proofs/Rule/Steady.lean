import FederatedAccess.Policy
import FederatedAccess.Proofs.Rule.Meaning

/-!
# Rules that survive the loss of other tokens

A rule is evaluated on all tokens that are presented. When only some of them are kept, among them
all that meet the rule, the rule may no longer be met: a `NAND` that was met because of a rule that
failed is lost when that rule comes true, and a rule with a negation may come true when tokens are
taken away. Rules without negation cannot (`metWith_mono`). So the only obstacle is a negation below
a `NAND`, and without one a rule survives (`nonempty_of_steady`).

A `NOR` is no obstacle anywhere else. If it is met, all tokens meet it, so that all are kept.
-/

namespace FederatedAccess

namespace Rule

mutual
/-- There is no negation in the rule. -/
def isPositive : Rule → Bool
  | boolean .. | numeric .. | text .. => true
  | composite rules .and | composite rules .or => allPositive rules
  | composite _ .nand | composite _ .nor => false

/-- There is no negation in any of the rules. -/
def allPositive : List Rule → Bool
  | [] => true
  | rule :: rest => rule.isPositive && allPositive rest
end

mutual
/-- Below a `NAND` there is no negation. What is below a `NOR` does not count. -/
def isSteady : Rule → Bool
  | boolean .. | numeric .. | text .. => true
  | composite rules .and | composite rules .or => allSteady rules
  | composite rules .nand => allPositive rules
  | composite _ .nor => true

/-- All of the rules are of this kind. -/
def allSteady : List Rule → Bool
  | [] => true
  | rule :: rest => rule.isSteady && allSteady rest
end

variable {kept : Patterns} {tokens fewer more : TokenSet} {token : Token} {rule : Rule}
  {rules : List Rule}

theorem allPositive_iff : allPositive rules = true ↔ ∀ rule ∈ rules, rule.isPositive = true := by
  induction rules with
  | nil => simp [allPositive]
  | cons rule rest ih => rw [allPositive, Bool.and_eq_true, ih, List.forall_mem_cons]

theorem allSteady_iff : allSteady rules = true ↔ ∀ rule ∈ rules, rule.isSteady = true := by
  induction rules with
  | nil => simp [allSteady]
  | cons rule rest ih => rw [allSteady, Bool.and_eq_true, ih, List.forall_mem_cons]

theorem isSteady_of_isPositive (h : rule.isPositive = true) : rule.isSteady = true := by
  induction rule using Rule.induction with
  | boolean | numeric | text => rfl
  | composite rules operator ih =>
    have hall : allPositive rules = true → allSteady rules = true := by
      intro hpositive
      refine allSteady_iff.2 fun rule hrule => ih rule hrule ?_
      exact allPositive_iff.1 hpositive rule hrule
    cases operator with
    | and => exact hall h
    | or => exact hall h
    | nand => cases h
    | nor => cases h

/-! ## Without negation -/

variable [Pattern.SizeLimit]

/-- **More tokens meet more.** A rule without negation that some tokens meet is still met by them
when there are others. -/
theorem metWith_mono (hpositive : rule.isPositive = true) (hsub : fewer ⊆ more) :
    rule.metWith kept fewer ⊆ rule.metWith kept more := by
  induction rule using metWith_induction kept with
  | test rule test htest =>
    intro token hmem
    rw [htest, Catalog.mem_filter] at hmem ⊢
    exact ⟨hsub token hmem.1, hmem.2⟩
  | composite rules operator ih =>
    have heach : allPositive rules = true → ∀ rule ∈ rules,
        rule.metWith kept fewer ⊆ rule.metWith kept more :=
      fun hall rule hrule => ih rule hrule (allPositive_iff.1 hall rule hrule)
    have hone : allPositive rules = true → ∀ token, MeetsOne kept fewer rules token →
        MeetsOne kept more rules token := by
      rintro hall token ⟨rule, hrule, hmem⟩
      exact ⟨rule, hrule, heach hall rule hrule token hmem⟩
    intro token hmem
    cases operator with
    | and =>
      obtain ⟨hmet, hmeets⟩ := mem_metWith_and.1 hmem
      refine mem_metWith_and.2 ⟨fun rule hrule => ?_, hone hpositive token hmeets⟩
      exact (hmet rule hrule).mono (heach hpositive rule hrule)
    | or => exact mem_metWith_or.2 (hone hpositive token (mem_metWith_or.1 hmem))
    | nand => cases hpositive
    | nor => cases hpositive

/-! ## Without negation below a NAND -/

/-- A rule that is met by a token keeps being met when this token and all others that meet one of
the rules are kept. -/
theorem nonempty_of_meetsOne {rules : List Rule}
    (ih : ∀ rule ∈ rules, (rule.metWith kept more).Nonempty → rule.metWith kept more ⊆ fewer →
      (rule.metWith kept fewer).Nonempty)
    (hkept : ∀ token, MeetsOne kept more rules token → token ∈ fewer) :
    ∀ rule ∈ rules, (rule.metWith kept more).Nonempty → (rule.metWith kept fewer).Nonempty := by
  intro rule hrule hmet
  refine ih rule hrule hmet fun token hmem => ?_
  exact hkept token ⟨rule, hrule, hmem⟩

/-- **A rule survives.** A rule without negation below a `NAND` that some tokens meet is still met
when fewer tokens are left, as long as those that met it are. -/
theorem nonempty_of_steady (hsteady : rule.isSteady = true) (hsub : fewer ⊆ more)
    (hmet : (rule.metWith kept more).Nonempty) (hkept : rule.metWith kept more ⊆ fewer) :
    (rule.metWith kept fewer).Nonempty := by
  induction rule using metWith_induction kept with
  | test rule test htest =>
    obtain ⟨token, hmem⟩ := hmet
    refine ⟨token, ?_⟩
    have hfewer := hkept token hmem
    rw [htest, Catalog.mem_filter] at hmem ⊢
    exact ⟨hfewer, hmem.2⟩
  | composite rules operator ih =>
    obtain ⟨token, hmem⟩ := hmet
    cases operator with
    | and =>
      obtain ⟨hall, hone⟩ := mem_metWith_and.1 hmem
      have hsurvives := nonempty_of_meetsOne
        (fun rule hrule => ih rule hrule (allSteady_iff.1 hsteady rule hrule))
        (fun t ht => hkept t (mem_metWith_and.2 ⟨hall, ht⟩))
      obtain ⟨rule, hrule, hrulemem⟩ := hone
      obtain ⟨t, ht⟩ := hsurvives rule hrule ⟨token, hrulemem⟩
      refine ⟨t, mem_metWith_and.2 ⟨fun rule hrule => ?_, rule, hrule, ht⟩⟩
      exact hsurvives rule hrule (hall rule hrule)
    | or =>
      obtain ⟨rule, hrule, hrulemem⟩ := mem_metWith_or.1 hmem
      have hsurvives := nonempty_of_meetsOne
        (fun rule hrule => ih rule hrule (allSteady_iff.1 hsteady rule hrule))
        (fun t ht => hkept t (mem_metWith_or.2 ht))
      obtain ⟨t, ht⟩ := hsurvives rule hrule ⟨token, hrulemem⟩
      exact ⟨t, mem_metWith_or.2 ⟨rule, hrule, ht⟩⟩
    | nand =>
      -- the rule that was not met stays so, since it has no negation and tokens were taken away
      have hpositive := allPositive_iff.1 hsteady
      obtain ⟨hall, hone⟩ := mem_metWith_nand.1 hmem
      have hsurvives := nonempty_of_meetsOne
        (fun rule hrule => ih rule hrule (isSteady_of_isPositive (hpositive rule hrule)))
        (fun t ht => hkept t (mem_metWith_nand.2 ⟨hall, ht⟩))
      obtain ⟨rule, hrule, hrulemem⟩ := hone
      obtain ⟨t, ht⟩ := hsurvives rule hrule ⟨token, hrulemem⟩
      refine ⟨t, mem_metWith_nand.2 ⟨fun hfewer => hall fun rule hrule => ?_, rule, hrule, ht⟩⟩
      exact (hfewer rule hrule).mono (metWith_mono (hpositive rule hrule) hsub)
    | nor =>
      -- all tokens meet the rule, so all are left
      have hnone := (mem_metWith_nor.1 hmem).1
      have hsame : fewer = more := Catalog.ext_mem fun t =>
        ⟨fun ht => hsub t ht, fun ht => hkept t (mem_metWith_nor.2 ⟨hnone, ht⟩)⟩
      rw [hsame]
      exact ⟨token, hmem⟩

end Rule

/-! ## Policies -/

namespace Policy

variable {fewer more : TokenSet}

/-- The token that satisfies a policy is still there, so one is first. -/
theorem nonempty_firstWith_of_subset {test : Token → Bool}
    (hsatisfied : (more.firstWith test).Nonempty) (hkept : more.firstWith test ⊆ fewer) :
    (fewer.firstWith test).Nonempty := by
  obtain ⟨token, hmem⟩ := hsatisfied
  refine Catalog.nonempty_firstWith_iff.2 ⟨token, hkept token hmem, ?_⟩
  exact (Catalog.of_mem_firstWith hmem).2

variable [Pattern.SizeLimit] {policy : Policy}

/-- Nothing in the policy keeps it from surviving the loss of other tokens. -/
def isSteady : Policy → Bool
  | singleToken _ | federation _ => true
  | attributes policy => policy.rule.isSteady

theorem satisfiedBy_subset (policy : Policy) (tokens : TokenSet) :
    policy.satisfiedBy tokens ⊆ tokens := by
  intro token hmem
  cases policy with
  | singleToken claims => exact (Catalog.of_mem_firstWith hmem).1
  | attributes policy => exact Rule.metWith_subset _ tokens policy.rule token hmem
  | federation policy => exact (Catalog.of_mem_firstWith hmem).1

/-- **A policy survives.** A policy of this kind that some tokens satisfy is still satisfied when
fewer tokens are left, as long as those that satisfied it are. -/
theorem nonempty_of_steady (hsteady : policy.isSteady = true) (hsub : fewer ⊆ more)
    (hsatisfied : (policy.satisfiedBy more).Nonempty) (hkept : policy.satisfiedBy more ⊆ fewer) :
    (policy.satisfiedBy fewer).Nonempty := by
  cases policy with
  | singleToken claims => exact nonempty_firstWith_of_subset hsatisfied hkept
  | attributes policy => exact Rule.nonempty_of_steady hsteady hsub hsatisfied hkept
  | federation policy => exact nonempty_firstWith_of_subset hsatisfied hkept

end Policy

end FederatedAccess
