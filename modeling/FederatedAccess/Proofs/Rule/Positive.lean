import FederatedAccess.Proofs.Rule.Steady
import FederatedAccess.Proofs.Token.Issuing

/-!
# Rules without negation

Among more tokens, more of them meet such a rule (`metWith_mono`). The other way round, a token that
does not meet the rule is never missed: as long as all those that meet it are left, each of them
goes on to meet it (`metWith_subset_of_kept`). So the tokens that meet a rule settle by themselves
that it is met.
-/

namespace FederatedAccess

namespace Rule

variable [Pattern.SizeLimit] {kept : Patterns} {fewer more : TokenSet} {rule : Rule}

/-- What meets a rule without negation goes on to meet it as long as all that meets it is left. -/
theorem metWith_subset_of_kept (hpositive : rule.isPositive = true)
    (hkept : rule.metWith kept more ⊆ fewer) :
    rule.metWith kept more ⊆ rule.metWith kept fewer := by
  induction rule using metWith_induction kept with
  | test rule test htest =>
    intro token hmem
    have hfewer := hkept token hmem
    rw [htest, Catalog.mem_filter] at hmem ⊢
    exact ⟨hfewer, hmem.2⟩
  | composite rules operator ih =>
    -- where the combination is met, all that meets one of its rules meets the combination as well
    have heach : allPositive rules = true →
        (∀ token, MeetsOne kept more rules token → token ∈ fewer) →
        ∀ rule ∈ rules, rule.metWith kept more ⊆ rule.metWith kept fewer := by
      intro hall hone rule hrule
      refine ih rule hrule (allPositive_iff.1 hall rule hrule) ?_
      intro token hmem
      exact hone token ⟨rule, hrule, hmem⟩
    intro token hmem
    cases operator with
    | and =>
      obtain ⟨hall, rule, hrule, hmet⟩ := mem_metWith_and.1 hmem
      have hfewer := heach hpositive fun t ht => hkept t (mem_metWith_and.2 ⟨hall, ht⟩)
      refine mem_metWith_and.2 ⟨?_, rule, hrule, hfewer rule hrule token hmet⟩
      intro other hother
      exact (hall other hother).mono (hfewer other hother)
    | or =>
      obtain ⟨rule, hrule, hmet⟩ := mem_metWith_or.1 hmem
      have hfewer := heach hpositive fun t ht => hkept t (mem_metWith_or.2 ht)
      exact mem_metWith_or.2 ⟨rule, hrule, hfewer rule hrule token hmet⟩
    | nand => cases hpositive
    | nor => cases hpositive

/-- **Settled by its witnesses.** More tokens never take a token away from those that meet a rule
without negation, and tokens that do not meet it can be left out without a difference. -/
theorem positive_settled_by_witnesses {rule : Rule} (hpositive : rule.isPositive = true) :
    (∀ fewer more : TokenSet, fewer ⊆ more → rule.met fewer ⊆ rule.met more) ∧
    (∀ tokens left : TokenSet, rule.met tokens ⊆ left → left ⊆ tokens →
      rule.met left = rule.met tokens) ∧
    ∀ tokens : TokenSet, rule.met (rule.met tokens) = rule.met tokens := by
  have hleft : ∀ tokens left : TokenSet, rule.met tokens ⊆ left → left ⊆ tokens →
      rule.met left = rule.met tokens := by
    intro tokens left hkept hsub
    refine Catalog.ext_mem fun token => ⟨?_, ?_⟩
    · exact metWith_mono hpositive hsub token
    · exact metWith_subset_of_kept hpositive hkept token
  refine ⟨fun fewer more hsub => metWith_mono hpositive hsub, hleft, ?_⟩
  intro tokens
  exact hleft tokens (rule.met tokens) (fun _ hmem => hmem) (metWith_subset _ tokens rule)

end Rule

/-! ## Tokens with one attribute -/

/-- Claims with no more than one attribute to tell. -/
def bearerClaims (name value : String) : Claims where
  issuer := "p"
  subject := "s"
  expiration := 0
  issuedAt := none
  tokenId := none
  issuerKey := ""
  subjectKey := none
  tokenType := .home
  attributes := Dictionary.single name value
  extra := Catalog.empty

/-- A token with one attribute, signed by nobody. -/
def Token.bearer (name value : String) : Token :=
  .written ⟨acceptedAlgorithm, none⟩
    (Claims.transportable_of_extra (rfl : (bearerClaims name value).extra = Catalog.empty)) []

theorem Token.attribute?_bearer_iff {name value asked found : String} :
    (bearer name value).attribute? asked = some found ↔
      (withoutPrefix? asked).getD asked = name ∧ found = value :=
  Dictionary.get?_single_iff

namespace Rule

/-! ## A rule that needs two tokens -/

attribute [local instance] Pattern.SizeLimit.unlimited

/-- Needs a token for each of two attributes, one of them by way of a choice. -/
def bothRule : Rule :=
  .composite [.composite [.boolean "m" .isTrue, .composite [] .and] .or, .boolean "x" .isTrue] .and

def bearers : TokenSet :=
  Catalog.ofList [Token.bearer "m" "true", Token.bearer "x" " TRUE", Token.bearer "y" "true"]

/-- Those of the tokens that the rule needs. -/
def neededBearers : TokenSet :=
  Catalog.ofList [Token.bearer "m" "true", Token.bearer "x" " TRUE"]

theorem mem_bearers_iff {token : Token} :
    token ∈ bearers ↔ token ∈ neededBearers ∨ token = Token.bearer "y" "true" := by
  rw [bearers, neededBearers, Catalog.mem_ofList fun _ _ => Token.ext_text,
    Catalog.mem_ofList fun _ _ => Token.ext_text]
  simp [or_assoc]

theorem memberBearer_meets : Token.bearer "m" "true" ∈ (boolean "m" .isTrue).met bearers := by
  refine mem_metWith_boolean.2 ⟨mem_bearers_iff.2 (Or.inl ?_), "true", ?_, by decide⟩
  · exact (Catalog.mem_ofList fun _ _ => Token.ext_text).2 (List.mem_pair.2 (Or.inl rfl))
  · exact Token.attribute?_bearer_iff.2 ⟨by decide, rfl⟩

theorem strangerBearer_meets : Token.bearer "x" " TRUE" ∈ (boolean "x" .isTrue).met bearers := by
  refine mem_metWith_boolean.2 ⟨mem_bearers_iff.2 (Or.inl ?_), " TRUE", ?_, by decide⟩
  · exact (Catalog.mem_ofList fun _ _ => Token.ext_text).2 (List.mem_pair.2 (Or.inr rfl))
  · exact Token.attribute?_bearer_iff.2 ⟨by decide, rfl⟩

/-- The third token has neither of the attributes. -/
theorem met_bearers_subset : bothRule.met bearers ⊆ neededBearers := by
  intro token hmem
  rcases mem_bearers_iff.1 (metWith_subset _ _ _ token hmem) with hneeded | rfl
  · exact hneeded
  · have hnone : ∀ name, (withoutPrefix? name).getD name ≠ "y" →
        Token.bearer "y" "true" ∉ (boolean name .isTrue).met bearers := by
      intro name hname hbearer
      obtain ⟨-, value, hvalue, -⟩ := mem_metWith_boolean.1 hbearer
      exact hname (Token.attribute?_bearer_iff.1 hvalue).1
    obtain ⟨-, rule, hrule, hmet⟩ := mem_metWith_and.1 hmem
    rcases List.mem_pair.1 hrule with rfl | rfl
    · obtain ⟨rule, hrule, hmet⟩ := mem_metWith_or.1 hmet
      rcases List.mem_pair.1 hrule with rfl | rfl
      · exact absurd hmet (hnone "m" (by decide))
      · obtain ⟨-, rule, hrule, -⟩ := mem_metWith_and.1 hmet
        exact absurd hrule List.not_mem_nil
    · exact absurd hmet (hnone "x" (by decide))

/-- Both of the tokens that the rule needs meet it, whether the third is there or not. -/
theorem needed_bearers_settle :
    bothRule.isPositive = true ∧ bothRule.met bearers ⊆ neededBearers ∧ neededBearers ⊆ bearers ∧
      bothRule.met neededBearers = bothRule.met bearers ∧
      Token.bearer "m" "true" ∈ bothRule.met bearers ∧
      Token.bearer "x" " TRUE" ∈ bothRule.met bearers := by
  have hpositive : bothRule.isPositive = true := rfl
  have hsub : neededBearers ⊆ bearers := fun token hmem => mem_bearers_iff.2 (Or.inl hmem)
  obtain ⟨-, hleft, -⟩ := positive_settled_by_witnesses hpositive
  have hchoice : Token.bearer "m" "true" ∈
      (composite [.boolean "m" .isTrue, .composite [] .and] .or).met bearers :=
    mem_metWith_or.2 ⟨_, List.mem_cons_self, memberBearer_meets⟩
  have hall : AllMet Catalog.empty bearers
      [.composite [.boolean "m" .isTrue, .composite [] .and] .or, .boolean "x" .isTrue] := by
    intro rule hrule
    rcases List.mem_pair.1 hrule with rfl | rfl
    · exact ⟨_, hchoice⟩
    · exact ⟨_, strangerBearer_meets⟩
  refine ⟨hpositive, met_bearers_subset, hsub, hleft _ _ met_bearers_subset hsub, ?_, ?_⟩
  · exact mem_metWith_and.2 ⟨hall, _, List.mem_pair.2 (Or.inl rfl), hchoice⟩
  · exact mem_metWith_and.2 ⟨hall, _, List.mem_pair.2 (Or.inr rfl), strangerBearer_meets⟩

end Rule

end FederatedAccess
