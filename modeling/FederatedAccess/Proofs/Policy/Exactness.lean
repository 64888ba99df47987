import FederatedAccess.Proofs.Honest
import FederatedAccess.Proofs.Policy.Resolution
import FederatedAccess.Proofs.Rule.Steady

/-!
# Resolution is exact

Credentials are put under the tokens that their texts are, and the tokens that satisfy a policy are
turned back into credentials. Neither way loses any (`mem_justified_iff`), because whatever satisfies
a policy was presented. So a resource is opened by all the credentials that carry a satisfying token
and by no others, whatever order credentials and resources are gone through (`resolve_exact`).
-/

namespace FederatedAccess

/-! ## Carried tokens -/

/-- Blank characters in front do not count. -/
theorem Text.trim_blank_append {blank text : String} (h : ∀ c ∈ blank.toList, isBlank c = true) :
    trim (blank ++ text) = trim text := by
  have hdrop : (blank.toList ++ text.toList).dropWhile isBlank =
      text.toList.dropWhile isBlank :=
    List.dropWhile_append_of_pos h
  rw [trim, trim, trimChars, trimChars, String.toList_append, hdrop]

theorem SecurityRequest.SameAs.perm {a b : SecurityRequest} (same : a.SameAs b) :
    a.credentials.Perm b.credentials :=
  (List.perm_ext_iff_of_nodup a.nodup b.nodup).2 same.mem_iff

theorem SecurityRequest.SameAs.tokens_eq {a b : SecurityRequest} (same : a.SameAs b) :
    a.tokens = b.tokens := by
  refine Catalog.ext_mem fun token => ?_
  simp only [SecurityRequest.mem_tokens, same.mem_iff]

/-! ## What exactness means -/

/-- The credentials that open a resource under a policy: all that carry a token which satisfies the
policy, and no others. -/
structure Policy.OpenedBy [Pattern.SizeLimit] (policy : Policy) (request : SecurityRequest)
    (credentials : List SecurityCredentials) : Prop where
  mem_iff : ∀ c, c ∈ credentials ↔ c ∈ request.credentials ∧
    ∃ token ∈ policy.satisfiedBy request.tokens, Token.parse c.token = .ok token
  /-- None of them is left out because its text has other blank characters around the token. -/
  mem_of_trim : ∀ c ∈ request.credentials, ∀ token ∈ policy.satisfiedBy request.tokens,
    Text.trim c.token = token.text → c ∈ credentials
  subset : credentials ⊆ request.credentials
  ne_nil : credentials ≠ []
  nodup : credentials.Nodup

/-- Every resource is settled exactly by its policy and the tokens that are presented. -/
structure ResolvedResources.IsExact [Pattern.SizeLimit] (resolved : ResolvedResources)
    (request : SecurityRequest) (policies : ResourcePolicies) : Prop where
  /-- What has no entry among the policies is not opened. -/
  unlisted : ∀ resource, policies.get? resource = none → resolved.get? resource = none
  /-- Without a policy, all credentials open a resource. -/
  unrestricted : ∀ resource, policies.get? resource = some none →
    ∃ credentials, resolved.get? resource = some credentials ∧
      credentials.Perm request.credentials
  /-- It is absent exactly when no presented token satisfies its policy. -/
  absent_iff : ∀ resource policy, policies.get? resource = some (some policy) →
    (resolved.get? resource = none ↔ ∀ token, token ∉ policy.satisfiedBy request.tokens)
  /-- Otherwise it is opened by the credentials that carry a token which does. -/
  opened : ∀ resource policy credentials, policies.get? resource = some (some policy) →
    resolved.get? resource = some credentials → policy.OpenedBy request credentials
  /-- Without credentials, only resources without a policy are opened. -/
  of_empty : request.credentials = [] → ∀ resource,
    (∃ credentials, resolved.get? resource = some credentials) ↔
      policies.get? resource = some none

namespace Resolution

variable {request visited : SecurityRequest} {found : List (Token × SecurityCredentials)}
  {credentials : List SecurityCredentials} {resolved : ResolvedResources} {c : SecurityCredentials}

/-! ## Failing -/

/-- A request cannot be taken apart exactly when one of its texts is no token. -/
theorem presented_error_iff :
    (∃ e, presented request = .error e) ↔
      ∃ c ∈ request.credentials, ∃ e, Token.parse c.token = .error e := by
  constructor
  · rintro ⟨e, herror⟩
    by_contra hnone
    obtain ⟨found, hfound⟩ : ∃ found, presented request = .ok found := by
      refine exists_presented fun c hc => ?_
      cases hparse : Token.parse c.token with
      | ok token => exact ⟨token, rfl⟩
      | error cause => exact absurd ⟨c, hc, cause, hparse⟩ hnone
    rw [herror] at hfound
    cases hfound
  · rintro ⟨c, hc, cause, hparse⟩
    cases hfound : presented request with
    | error e => exact ⟨e, rfl⟩
    | ok found =>
      obtain ⟨hmap, htokens⟩ := presented_ok_iff.1 hfound
      rw [← hmap] at hc
      obtain ⟨entry, hentry, rfl⟩ := List.mem_map.1 hc
      rw [htokens entry hentry] at hparse
      cases hparse

/-- Without credentials no token is presented. -/
theorem not_mem_tokens_of_empty (hempty : request.credentials = []) (token : Token) :
    token ∉ request.tokens := by
  intro hmem
  obtain ⟨c, hc, -⟩ := SecurityRequest.mem_tokens.1 hmem
  rw [hempty] at hc
  cases hc

section

variable [Pattern.SizeLimit] {policies : ResourcePolicies}
  {listed : List (String × Option Policy)} {policy : Policy}

/-! ## There and back -/

/-- **There and back.** The credentials that open a resource are those that were put under a token
which satisfies its policy. -/
theorem mem_justified_iff (hfound : presented request = .ok found)
    (h : justified? (.ofList found) policy = some credentials) :
    c ∈ credentials ↔ c ∈ request.credentials ∧
      ∃ token ∈ policy.satisfiedBy request.tokens, Token.parse c.token = .ok token := by
  rw [mem_justified h, tokens_presented hfound]
  constructor
  · rintro ⟨token, htoken, hmem⟩
    obtain ⟨hc, hparse⟩ := (mem_presented_iff hfound).1 hmem
    exact ⟨hc, token, htoken, hparse⟩
  · rintro ⟨hc, token, htoken, hparse⟩
    exact ⟨token, htoken, (mem_presented_iff hfound).2 ⟨hc, hparse⟩⟩

theorem openedBy_of_justified (hfound : presented request = .ok found)
    (h : justified? (.ofList found) policy = some credentials) :
    policy.OpenedBy request credentials where
  mem_iff _ := mem_justified_iff hfound h
  mem_of_trim c hc token htoken htrim :=
    (mem_justified_iff hfound h).2 ⟨hc, token, htoken, Token.parse_ok_iff.2 htrim⟩
  subset _ hc := ((mem_justified_iff hfound h).1 hc).1
  ne_nil := by
    -- a satisfying token was presented, so some credentials carry it
    obtain ⟨⟨token, htoken⟩, -⟩ := justified?_eq_some_iff.1 h
    rw [tokens_presented hfound] at htoken
    have hpresented : token ∈ request.tokens := policy.satisfiedBy_subset _ _ htoken
    obtain ⟨c, hc, hparse⟩ := SecurityRequest.mem_tokens.1 hpresented
    exact List.ne_nil_of_mem ((mem_justified_iff hfound h).2 ⟨hc, token, htoken, hparse⟩)
  nodup := by
    obtain ⟨-, rfl⟩ := justified?_eq_some_iff.1 h
    exact nodup_distinct _

/-! ## All resources -/

/-- A request that is resolved opens nothing but what its own credentials justify. -/
theorem isExact_of_resolveListed (hlisted : listed.Perm policies.toList)
    (hresolved : request.resolveListed listed = .ok resolved) :
    resolved.IsExact request policies := by
  obtain ⟨found, hfound, -⟩ := resolveListed_ok_iff.1 hresolved
  have htokens : tokens found = request.tokens := tokens_presented hfound
  have hget : ∀ {resource credentials}, resolved.get? resource = some credentials ↔
      ∃ policy, policies.get? resource = some policy ∧
        opened? request (.ofList found) policy = some credentials :=
    resolveListed_get?_iff hfound hlisted hresolved
  have habsent : ∀ resource policy, policies.get? resource = some (some policy) →
      (resolved.get? resource = none ↔ ∀ token, token ∉ policy.satisfiedBy request.tokens) := by
    intro resource policy hpolicy
    rw [← Catalog.not_nonempty_iff, ← htokens, ← justified?_eq_none_iff,
      Option.eq_none_iff_forall_ne_some, Option.eq_none_iff_forall_ne_some]
    refine forall_congr' fun credentials => not_congr ?_
    rw [hget, hpolicy]
    simp [opened?]
  refine ⟨?_, ?_, habsent, ?_, ?_⟩
  · intro resource hunlisted
    rw [Option.eq_none_iff_forall_ne_some]
    intro credentials hopened
    obtain ⟨policy, hpolicy, -⟩ := hget.1 hopened
    rw [hunlisted] at hpolicy
    cases hpolicy
  · intro resource hnone
    exact ⟨request.credentials, hget.2 ⟨none, hnone, rfl⟩, .refl _⟩
  · intro resource policy credentials hpolicy hopened
    obtain ⟨policy', hpolicy', hjustified⟩ := hget.1 hopened
    obtain rfl : some policy = policy' := Option.some.inj (hpolicy.symm.trans hpolicy')
    exact openedBy_of_justified hfound hjustified
  · intro hempty resource
    constructor
    · rintro ⟨credentials, hopened⟩
      obtain ⟨policy, hpolicy, -⟩ := hget.1 hopened
      cases policy with
      | none => exact hpolicy
      | some policy =>
        have hclosed := (habsent resource policy hpolicy).2 fun token htoken =>
          not_mem_tokens_of_empty hempty token (policy.satisfiedBy_subset _ _ htoken)
        rw [hclosed] at hopened
        cases hopened
    · intro hnone
      exact ⟨request.credentials, hget.2 ⟨none, hnone, rfl⟩⟩

/-- Exactness looks at a request as a set of credentials. -/
theorem isExact_of_sameAs (same : visited.SameAs request) (h : resolved.IsExact visited policies) :
    resolved.IsExact request policies where
  unlisted := h.unlisted
  unrestricted resource hnone := by
    obtain ⟨credentials, hopened, hperm⟩ := h.unrestricted resource hnone
    exact ⟨credentials, hopened, hperm.trans same.perm⟩
  absent_iff := by
    rw [← same.tokens_eq]
    exact h.absent_iff
  opened resource policy credentials hpolicy hopened := by
    have hvisited := h.opened resource policy credentials hpolicy hopened
    refine ⟨fun c => ?_, fun c hc => ?_, fun c hc => ?_, hvisited.ne_nil, hvisited.nodup⟩
    · rw [hvisited.mem_iff, same.mem_iff, same.tokens_eq]
    · rw [← same.tokens_eq]
      exact hvisited.mem_of_trim c ((same.mem_iff c).2 hc)
    · exact (same.mem_iff c).1 (hvisited.subset hc)
  of_empty hempty := h.of_empty (List.perm_nil.1 (hempty ▸ same.perm))

/-- **Resolution is exact.** In whatever order credentials and resources are gone through, resolving
fails exactly when some presented text is no token, and otherwise settles every resource by its
policy and the presented tokens. -/
theorem resolve_exact (request visited : SecurityRequest) (policies : ResourcePolicies)
    (listed : List (String × Option Policy)) (same : visited.SameAs request)
    (hlisted : listed.Perm policies.toList) :
    ((∃ e, visited.resolveListed listed = .error e) ↔
      ∃ c ∈ request.credentials, ∃ e, Token.parse c.token = .error e) ∧
    ∀ resolved, visited.resolveListed listed = .ok resolved →
      resolved.IsExact request policies := by
  constructor
  · simp only [resolveListed_error_iff, presented_error_iff, same.mem_iff]
  · intro resolved hresolved
    exact isExact_of_sameAs same (isExact_of_resolveListed hlisted hresolved)

end

/-! ## One token twice -/

attribute [local instance] Pattern.SizeLimit.unlimited

/-- Credentials with the same token, the second with a line break in front of it. -/
def heldTwice : SecurityRequest where
  credentials := [.ofToken Authenticator.heldToken.text,
    .ofToken ("\n" ++ Authenticator.heldToken.text)]
  timestamp := 0
  nodup := by
    have hne : Authenticator.heldToken.text ≠ "\n" ++ Authenticator.heldToken.text := by
      intro h
      have := congrArg String.length h
      rw [String.length_append] at this
      have hbreak : "\n".length = 1 := rfl
      omega
    simp [SecurityCredentials.ofToken, hne]

def heldTwiceBackwards : SecurityRequest where
  credentials := heldTwice.credentials.reverse
  timestamp := 0
  nodup := List.nodup_reverse.2 heldTwice.nodup

/-- A resource for any token, one for nobody that is here, and one without a policy. -/
def threePolicies : ResourcePolicies :=
  Catalog.ofList [("any", some (.singleToken Catalog.empty)),
    ("other", some (.singleToken (Dictionary.single subjectClaimKey "other"))), ("open", none)]

theorem parse_of_mem_heldTwice (hc : c ∈ heldTwice.credentials) :
    Token.parse c.token = .ok Authenticator.heldToken := by
  have hblank : ∀ c ∈ "\n".toList, Text.isBlank c = true :=
    List.forall_mem_singleton.2 (by decide)
  have hpadded : Text.trim ("\n" ++ Authenticator.heldToken.text) =
      Authenticator.heldToken.text := by
    rw [Text.trim_blank_append hblank, Authenticator.heldToken.trimmed]
  simp only [heldTwice, List.mem_cons, List.not_mem_nil, or_false] at hc
  rcases hc with rfl | rfl
  · exact Authenticator.heldToken.parse_text
  · exact Token.parse_ok_iff.2 hpadded

theorem mem_heldTwice_tokens_iff {token : Token} :
    token ∈ heldTwice.tokens ↔ token = Authenticator.heldToken := by
  rw [SecurityRequest.mem_tokens]
  constructor
  · rintro ⟨c, hc, htoken⟩
    exact Except.ok.inj (htoken.symm.trans (parse_of_mem_heldTwice hc))
  · rintro rfl
    exact ⟨_, List.mem_cons_self, Authenticator.heldToken.parse_text⟩

theorem heldToken_opens_any :
    Authenticator.heldToken ∈ (Policy.singleToken Catalog.empty).satisfiedBy heldTwice.tokens := by
  have hsome : ((Policy.singleToken Catalog.empty).satisfiedBy heldTwice.tokens).Nonempty :=
    Catalog.nonempty_firstWith_iff.2 ⟨_, mem_heldTwice_tokens_iff.2 rfl, rfl⟩
  obtain ⟨token, htoken⟩ := hsome
  exact mem_heldTwice_tokens_iff.1 (Catalog.of_mem_firstWith htoken).1 ▸ htoken

theorem not_opens_other (token : Token) :
    token ∉ (Policy.singleToken (Dictionary.single subjectClaimKey "other")).satisfiedBy
      heldTwice.tokens := by
  intro hmem
  obtain ⟨htoken, htest⟩ := Catalog.of_mem_firstWith hmem
  rw [mem_heldTwice_tokens_iff.1 htoken] at htest
  revert htest
  decide

/-- Both credentials open what the token opens, and nothing else is opened but what is open. -/
theorem held_twice_opens :
    heldTwiceBackwards.SameAs heldTwice ∧
    threePolicies.toList.reverse.Perm threePolicies.toList ∧
    ∃ resolved, heldTwiceBackwards.resolveListed threePolicies.toList.reverse = .ok resolved ∧
      resolved.get? "other" = none ∧
      (∃ credentials, resolved.get? "any" = some credentials ∧
        ∀ c, c ∈ credentials ↔ c ∈ heldTwice.credentials) ∧
      ∃ credentials, resolved.get? "open" = some credentials ∧
        credentials.Perm heldTwice.credentials := by
  have same : heldTwiceBackwards.SameAs heldTwice := ⟨rfl, fun _ => List.mem_reverse⟩
  have hlisted := List.reverse_perm threePolicies.toList
  obtain ⟨herror, hexact⟩ := resolve_exact heldTwice heldTwiceBackwards threePolicies
    threePolicies.toList.reverse same hlisted
  refine ⟨same, hlisted, ?_⟩
  cases hresolved : heldTwiceBackwards.resolveListed threePolicies.toList.reverse with
  | error e =>
    obtain ⟨c, hc, cause, hcause⟩ := herror.1 ⟨e, hresolved⟩
    rw [parse_of_mem_heldTwice hc] at hcause
    cases hcause
  | ok resolved =>
    have hresult := hexact resolved hresolved
    refine ⟨resolved, rfl, (hresult.absent_iff "other" _ rfl).2 not_opens_other, ?_,
      hresult.unrestricted "open" rfl⟩
    cases hopened : resolved.get? "any" with
    | none => exact absurd heldToken_opens_any ((hresult.absent_iff "any" _ rfl).1 hopened _)
    | some credentials =>
      have hby := hresult.opened "any" _ credentials rfl hopened
      refine ⟨credentials, rfl, fun c => (hby.mem_iff c).trans (and_iff_left_of_imp ?_)⟩
      exact fun hc => ⟨_, heldToken_opens_any, parse_of_mem_heldTwice hc⟩

end Resolution

end FederatedAccess
