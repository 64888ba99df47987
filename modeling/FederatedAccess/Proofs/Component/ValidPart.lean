import FederatedAccess.Proofs.Component.Agreement
import FederatedAccess.Proofs.Rule.Steady

/-!
# What the valid credentials open by themselves

Policies are evaluated on all tokens of a request, and only the credentials that satisfy one are
checked. A granted resource is therefore vouched for by valid credentials, but the others have taken
part in the evaluation. Left alone, the valid credentials open the resource exactly when their own
tokens satisfy its policy. They always do unless the policy has a negation below a `NAND`. With one,
an invalid token can turn a denial into a grant.
-/

namespace FederatedAccess

/-! ## A part of a request -/

/-- The request with those of its credentials that are wanted. -/
def SecurityRequest.keeping (request : SecurityRequest) (keep : SecurityCredentials → Bool) :
    SecurityRequest where
  credentials := request.credentials.filter keep
  timestamp := request.timestamp
  nodup := request.nodup.filter keep

namespace SecurityRequest

variable {request : SecurityRequest} {keep : SecurityCredentials → Bool} {c : SecurityCredentials}

theorem mem_keeping :
    c ∈ (request.keeping keep).credentials ↔ c ∈ request.credentials ∧ keep c = true :=
  List.mem_filter

theorem tokens_keeping_subset : (request.keeping keep).tokens ⊆ request.tokens := by
  intro token hmem
  obtain ⟨c, hc, hparse⟩ := mem_tokens.1 hmem
  exact mem_tokens.2 ⟨c, (mem_keeping.1 hc).1, hparse⟩

/-- A part of a request can be resolved when the request can. -/
theorem exists_resolve_keeping [Pattern.SizeLimit] (keep : SecurityCredentials → Bool)
    {policies : ResourcePolicies} {resolved : ResolvedResources}
    (h : request.resolve policies = .ok resolved) :
    ∃ resolved', (request.keeping keep).resolve policies = .ok resolved' := by
  obtain ⟨found, hfound, -⟩ := Resolution.resolve_ok_iff.1 h
  obtain ⟨hmap, hparse⟩ := Resolution.presented_ok_iff.1 hfound
  have hpart : ∀ c ∈ (request.keeping keep).credentials,
      ∃ token, Token.parse c.token = .ok token := by
    intro c hc
    have hin := (mem_keeping.1 hc).1
    rw [← hmap] at hin
    obtain ⟨entry, hentry, rfl⟩ := List.mem_map.1 hin
    exact ⟨entry.1, hparse entry hentry⟩
  obtain ⟨found', hfound'⟩ := Resolution.exists_presented hpart
  exact Resolution.exists_resolve policies hfound'

end SecurityRequest

namespace Component

open Operation

/-- The credentials of a request that are valid alone, under the time of the request. -/
def validPart (component : Component) (around : Surroundings) (past : History)
    (request : SecurityRequest) : SecurityRequest :=
  request.keeping (component.validAlone around past request.timestamp)

section

variable [Pattern.SizeLimit] {request : SecurityRequest} {policy : Option Policy}

/-! ## Surviving the loss of invalid credentials -/

/-- The tokens that satisfied the policy of an opened resource are all left. -/
theorem satisfying_subset_of_opens {keep : SecurityCredentials → Bool} {policy : Policy}
    (h : Resolution.Opens request (fun c => keep c = true) (some policy)) :
    policy.satisfiedBy request.tokens ⊆ (request.keeping keep).tokens := by
  intro token hmem
  obtain ⟨c, hc, hparse⟩ :=
    SecurityRequest.mem_tokens.1 (policy.satisfiedBy_subset request.tokens token hmem)
  have hkeep := h.2 c hc token hmem hparse
  exact SecurityRequest.mem_tokens.2 ⟨c, SecurityRequest.mem_keeping.2 ⟨hc, hkeep⟩, hparse⟩

/-- Of a part in which all credentials are accepted, a policy only demands tokens that satisfy
it. -/
theorem opens_keeping_iff {keep : SecurityCredentials → Bool} :
    Resolution.Opens (request.keeping keep) (fun c => keep c = true) policy ↔
      ∀ wanted, policy = some wanted →
        (wanted.satisfiedBy (request.keeping keep).tokens).Nonempty := by
  have hall : ∀ c ∈ (request.keeping keep).credentials, keep c = true :=
    fun c hc => (SecurityRequest.mem_keeping.1 hc).2
  cases policy with
  | none => exact iff_of_true hall (by simp)
  | some wanted =>
    constructor
    · rintro ⟨hsome, -⟩ wanted' heq
      obtain rfl := Option.some.inj heq
      exact hsome
    · intro h
      exact ⟨h wanted rfl, fun c hc _ _ _ => hall c hc⟩

/-- **The valid part of a request.** In steady surroundings the valid credentials of a request open
exactly the resources without a policy and those whose policies their own tokens satisfy. Of the
resources that are granted to the whole request, they open all whose policies have no negation below
a `NAND`. -/
theorem granted_valid_part (component : Component) (around : Surroundings)
    (steady : around.Steady) (policies : ResourcePolicies) (request : SecurityRequest)
    (order order' : VisitingOrder) (past past' past₀ : History) {granted : TextSet}
    (hgranted : ((component.satisfiedPoliciesIn order policies request).run around past).1 =
      .ok granted) :
    ∃ granted',
      ((component.satisfiedPoliciesIn order' policies
        (component.validPart around past₀ request)).run around past').1 = .ok granted' ∧
      (∀ resource, resource ∈ granted' ↔
        ∃ policy, policies.get? resource = some policy ∧ ∀ wanted, policy = some wanted →
          (wanted.satisfiedBy (component.validPart around past₀ request).tokens).Nonempty) ∧
      ∀ resource ∈ granted,
        (∀ policy, policies.get? resource = some (some policy) → policy.isSteady = true) →
          resource ∈ granted' := by
  cases hresolved : request.resolve policies with
  | error e =>
    rw [satisfiedPoliciesIn_error component order around past hresolved] at hgranted
    cases hgranted
  | ok resolved =>
    obtain ⟨resolved', hresolved'⟩ := SecurityRequest.exists_resolve_keeping
      (component.validAlone around past₀ request.timestamp) hresolved
    obtain ⟨granted', hgranted'⟩ := exists_granted component order' around past' hresolved'
    have hpart : ∀ resource, resource ∈ granted' ↔
        ∃ policy, policies.get? resource = some policy ∧ ∀ wanted, policy = some wanted →
          (wanted.satisfiedBy (component.validPart around past₀ request).tokens).Nonempty := by
      intro resource
      rw [granted_iff_opens steady hresolved' hgranted' past₀]
      exact exists_congr fun policy => and_congr_right fun _ => opens_keeping_iff
    refine ⟨granted', hgranted', hpart, fun resource hmem hsteady => ?_⟩
    obtain ⟨policy, hpolicy, hopens⟩ :=
      (granted_iff_opens steady hresolved hgranted past₀).1 hmem
    refine (hpart resource).2 ⟨policy, hpolicy, ?_⟩
    -- the tokens that satisfied the policy are valid, hence among those that are left
    rintro wanted rfl
    exact wanted.nonempty_of_steady (hsteady wanted hpolicy)
      SecurityRequest.tokens_keeping_subset hopens.1 (satisfying_subset_of_opens hopens)

end

/-! ## Members and strangers

Of the guests at the gate one is a member and one is a stranger. Only the member's token is
valid. -/

attribute [local instance] Pattern.SizeLimit.unlimited

def HasSet (token : Token) (name : String) : Prop :=
  ∃ value, token.attribute? name = some value ∧ BooleanOperator.isTrue.holds value = true

theorem hasSet_of_true {token : Token} {name : String}
    (h : token.attribute? name = some "true") : HasSet token name :=
  ⟨"true", h, by decide⟩

theorem not_hasSet_of_none {token : Token} {name : String} (h : token.attribute? name = none) :
    ¬ HasSet token name := by
  rintro ⟨value, hvalue, -⟩
  rw [h] at hvalue
  cases hvalue

/-- The tokens of the guests. -/
structure Guests (member stranger : Token) : Prop where
  /-- The member's text is a token. -/
  parse_member : Token.parse memberText = .ok member
  /-- The stranger's text is a token. -/
  parse_stranger : Token.parse strangerText = .ok stranger
  /-- Only the member has `m`. -/
  membership : HasSet member "m" ∧ ¬ HasSet stranger "m"
  /-- Only the stranger has `x`. -/
  strangeness : HasSet stranger "x" ∧ ¬ HasSet member "x"
  /-- The member is valid alone. -/
  valid : gate.validAlone gateAround {} 0 (.ofToken memberText) = true
  /-- The stranger is not. -/
  invalid : gate.validAlone gateAround {} 0 (.ofToken strangerText) = false

theorem stranger_isGuest : isGuestWith strangerText "x" "m" = true := by
  decide +kernel

theorem exists_guests : ∃ member stranger, Guests member stranger := by
  obtain ⟨member, hm, hmtext, hmguest, hmm, hmx⟩ := exists_guest member_isGuest
  obtain ⟨stranger, hs, hstext, hsguest, hsx, hsm⟩ := exists_guest stranger_isGuest
  have hvalid := (gate_validAlone_iff (.ofToken memberText) hm hmtext hmguest {}).2 rfl
  have hinvalid : ¬ gate.validAlone gateAround {} 0 (.ofToken strangerText) = true := by
    rw [gate_validAlone_iff (.ofToken strangerText) hs hstext hsguest {}]
    show strangerText ≠ memberText
    decide
  exact ⟨member, stranger,
    { parse_member := hm
      parse_stranger := hs
      membership := ⟨hasSet_of_true hmm, not_hasSet_of_none hsm⟩
      strangeness := ⟨hasSet_of_true hsx, not_hasSet_of_none hmx⟩
      valid := hvalid
      invalid := by simpa using hinvalid }⟩

def validGuests : SecurityRequest :=
  gate.validPart gateAround {} bothGuests

theorem mem_bothGuests_iff {c : SecurityCredentials} :
    c ∈ bothGuests.credentials ↔ c = .ofToken memberText ∨ c = .ofToken strangerText := by
  have hlist : bothGuests.credentials = [.ofToken memberText, .ofToken strangerText] := by decide
  rw [hlist, List.mem_pair]

namespace Guests

variable {member stranger : Token} (guests : Guests member stranger)

include guests

theorem mem_tokens_iff {token : Token} :
    token ∈ bothGuests.tokens ↔ token = member ∨ token = stranger := by
  simp only [SecurityRequest.mem_tokens, mem_bothGuests_iff, exists_eq_or_imp, exists_eq_left,
    SecurityCredentials.ofToken, guests.parse_member, guests.parse_stranger, Except.ok.injEq,
    eq_comm]

theorem exists_presented : ∃ found, Resolution.presented bothGuests = .ok found := by
  refine Resolution.exists_presented fun c hc => ?_
  rcases mem_bothGuests_iff.1 hc with rfl | rfl
  · exact ⟨member, guests.parse_member⟩
  · exact ⟨stranger, guests.parse_stranger⟩

theorem mem_validGuests_iff {c : SecurityCredentials} :
    c ∈ validGuests.credentials ↔ c = .ofToken memberText := by
  rw [validGuests, validPart, SecurityRequest.mem_keeping, mem_bothGuests_iff]
  constructor
  · rintro ⟨rfl | rfl, hkeep⟩
    · rfl
    · exact absurd (guests.invalid.symm.trans hkeep) (by decide)
  · rintro rfl
    exact ⟨Or.inl rfl, guests.valid⟩

theorem mem_validGuests_tokens_iff {token : Token} :
    token ∈ validGuests.tokens ↔ token = member := by
  simp only [SecurityRequest.mem_tokens, guests.mem_validGuests_iff, exists_eq_left,
    SecurityCredentials.ofToken, guests.parse_member, Except.ok.injEq, eq_comm]

theorem exists_presented_validGuests : ∃ found, Resolution.presented validGuests = .ok found := by
  refine Resolution.exists_presented fun c hc => ?_
  obtain rfl := guests.mem_validGuests_iff.1 hc
  exact ⟨member, guests.parse_member⟩

/-- Both guests together are let into a hall whose policy is satisfied by the members. -/
theorem granted_of_members {policy : Policy}
    (hmembers : ∀ token, token ∈ policy.satisfiedBy bothGuests.tokens ↔
      token ∈ bothGuests.tokens ∧ HasSet token "m") :
    ((gate.satisfiedPoliciesIn .byName (Dictionary.single "hall" (some policy)) bothGuests).run
      gateAround {}).1 = .ok (Catalog.ofList ["hall"]) := by
  obtain ⟨found, hfound⟩ := guests.exists_presented
  refine satisfiedPoliciesIn_single_of_opens gateAround_steady hfound ⟨?_, ?_⟩
  · refine ⟨member, (hmembers member).2 ⟨?_, guests.membership.1⟩⟩
    exact guests.mem_tokens_iff.2 (Or.inl rfl)
  · intro c hc token htoken hparse
    rcases mem_bothGuests_iff.1 hc with rfl | rfl
    · exact guests.valid
    · obtain rfl : stranger = token := Except.ok.inj (guests.parse_stranger.symm.trans hparse)
      exact absurd ((hmembers stranger).1 htoken).2 guests.membership.2

end Guests

/-- The policy that asks for a member. -/
def memberPolicy : Policy :=
  .attributes ⟨.boolean "m" .isTrue, Catalog.empty, by rfl⟩

theorem mem_memberPolicy_iff {tokens : TokenSet} {token : Token} :
    token ∈ memberPolicy.satisfiedBy tokens ↔ token ∈ tokens ∧ HasSet token "m" := by
  show token ∈ (Rule.boolean "m" .isTrue).metWith Catalog.empty tokens ↔ _
  exact Rule.mem_metWith_boolean

/-- Members keep the hall when strangers are not valid. -/
theorem granted_to_validGuests :
    gateAround.Steady ∧
    ((gate.satisfiedPoliciesIn .byName (Dictionary.single "hall" (some memberPolicy))
      bothGuests).run gateAround {}).1 = .ok (Catalog.ofList ["hall"]) ∧
    ∃ granted,
      ((gate.satisfiedPoliciesIn .backwards (Dictionary.single "hall" (some memberPolicy))
        validGuests).run gateAround {}).1 = .ok granted ∧ "hall" ∈ granted := by
  obtain ⟨member, stranger, guests⟩ := exists_guests
  have hboth := guests.granted_of_members fun token => mem_memberPolicy_iff
  obtain ⟨granted, hgranted, -, hall⟩ := granted_valid_part gate gateAround gateAround_steady
    (Dictionary.single "hall" (some memberPolicy)) bothGuests .byName .backwards {} {} {} hboth
  refine ⟨gateAround_steady, hboth, granted, hgranted, ?_⟩
  have hmem : "hall" ∈ (Catalog.ofList ["hall"] : TextSet) :=
    (Catalog.mem_ofList fun _ _ h => h).2 List.mem_cons_self
  refine hall "hall" hmem fun policy hpolicy => ?_
  obtain rfl := Option.some.inj (Dictionary.get?_single_iff.1 hpolicy).2
  rfl

/-! ## A negation below a NAND

A hall may be open to members only as long as there is a stranger. -/

/-- Met by all members when there is a stranger, and by nobody when there are only members. -/
def companyRule : Rule :=
  .composite [.composite [.boolean "x" .isTrue] .nor, .boolean "m" .isTrue] .nand

def companyPolicy : Policy :=
  .attributes ⟨companyRule, Catalog.empty, by rfl⟩

section Company

variable {tokens : TokenSet} {token : Token}

theorem mem_noStranger_iff :
    token ∈ (Rule.composite [.boolean "x" .isTrue] .nor).metWith Catalog.empty tokens ↔
      (∀ t ∈ tokens, ¬ HasSet t "x") ∧ token ∈ tokens := by
  rw [Rule.mem_metWith_nor, Rule.NoneMet, List.forall_mem_singleton, Catalog.not_nonempty_iff]
  simp only [Rule.mem_metWith_boolean, HasSet, not_and]

/-- With a stranger, the policy is satisfied by the members. -/
theorem mem_companyPolicy_of_stranger (hstranger : ∃ t ∈ tokens, HasSet t "x") :
    token ∈ companyPolicy.satisfiedBy tokens ↔ token ∈ tokens ∧ HasSet token "m" := by
  have hnor : ∀ t,
      t ∉ (Rule.composite [.boolean "x" .isTrue] .nor).metWith Catalog.empty tokens := by
    intro t ht
    obtain ⟨stranger, hin, hx⟩ := hstranger
    exact (mem_noStranger_iff.1 ht).1 stranger hin hx
  show token ∈ companyRule.metWith Catalog.empty tokens ↔ _
  rw [companyRule, Rule.mem_metWith_nand, Rule.AllMet, Rule.MeetsOne]
  constructor
  · rintro ⟨-, rule, hrule, hmem⟩
    rcases List.mem_pair.1 hrule with rfl | rfl
    · exact absurd hmem (hnor token)
    · exact Rule.mem_metWith_boolean.1 hmem
  · intro hmember
    refine ⟨fun hall => ?_, .boolean "m" .isTrue, List.mem_pair.2 (Or.inr rfl),
      Rule.mem_metWith_boolean.2 hmember⟩
    obtain ⟨t, ht⟩ := hall _ List.mem_cons_self
    exact hnor t ht

/-- With members alone, nobody satisfies the policy. -/
theorem not_mem_companyPolicy_of_members (hmember : ∃ t ∈ tokens, HasSet t "m")
    (hnone : ∀ t ∈ tokens, ¬ HasSet t "x") : token ∉ companyPolicy.satisfiedBy tokens := by
  show token ∉ companyRule.metWith Catalog.empty tokens
  rw [companyRule, Rule.mem_metWith_nand]
  rintro ⟨hsome, -⟩
  obtain ⟨t, hin, hm⟩ := hmember
  refine hsome fun rule hrule => ?_
  rcases List.mem_pair.1 hrule with rfl | rfl
  · exact ⟨t, mem_noStranger_iff.2 ⟨hnone, hin⟩⟩
  · exact ⟨t, Rule.mem_metWith_boolean.2 ⟨hin, hm⟩⟩

end Company

/-- **An invalid token opens the hall.** Both guests together are let into the hall. The stranger's
token is not valid, and without it the hall is closed. -/
theorem invalid_token_opens :
    gateAround.Steady ∧
    ((gate.satisfiedPoliciesIn .byName (Dictionary.single "hall" (some companyPolicy))
      bothGuests).run gateAround {}).1 = .ok (Catalog.ofList ["hall"]) ∧
    ((gate.satisfiedPoliciesIn .byName (Dictionary.single "hall" (some companyPolicy))
      (gate.validPart gateAround {} bothGuests)).run gateAround {}).1 = .ok Catalog.empty := by
  obtain ⟨member, stranger, guests⟩ := exists_guests
  refine ⟨gateAround_steady, guests.granted_of_members fun token => ?_, ?_⟩
  · refine mem_companyPolicy_of_stranger ⟨stranger, ?_, guests.strangeness.1⟩
    exact guests.mem_tokens_iff.2 (Or.inr rfl)
  · obtain ⟨found, hfound⟩ := guests.exists_presented_validGuests
    refine satisfiedPoliciesIn_single_of_not_opens gateAround_steady hfound ?_
    rintro ⟨⟨token, htoken⟩, -⟩
    have hmember : ∃ t ∈ validGuests.tokens, HasSet t "m" :=
      ⟨member, guests.mem_validGuests_tokens_iff.2 rfl, guests.membership.1⟩
    refine not_mem_companyPolicy_of_members hmember (fun t ht => ?_) htoken
    obtain rfl := guests.mem_validGuests_tokens_iff.1 ht
    exact guests.strangeness.2

end Component

end FederatedAccess
