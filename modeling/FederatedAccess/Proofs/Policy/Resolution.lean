import FederatedAccess.Policy.Resolution
import FederatedAccess.Proofs.Catalog
import FederatedAccess.Proofs.Results
import Mathlib.Data.List.Induction

/-!
# What a request opens

A request can be resolved when all its texts are tokens. Then each resource is settled by its own
policy alone (`resolve_get?_iff`): without a policy by all credentials, otherwise by those whose
token is among the satisfying ones.
-/

namespace FederatedAccess

/-! ## Sets of texts and of tokens -/

theorem TextSet.contains_iff {texts : TextSet} {text : String} :
    texts.contains text = true ↔ text ∈ texts := by
  rw [Catalog.contains_iff]
  constructor
  · rintro ⟨other, hmem, rfl⟩
    exact hmem
  · intro hmem
    exact ⟨text, hmem, rfl⟩

theorem mem_tokenSet_ofList {tokens : List Token} {token : Token} :
    token ∈ (Catalog.ofList tokens : TokenSet) ↔ token ∈ tokens :=
  Catalog.mem_ofList fun _ _ => Token.ext_text

/-! ## Tokens that are presented -/

/-- The tokens of a request, without the texts that are none. -/
def SecurityRequest.tokens (request : SecurityRequest) : TokenSet :=
  Catalog.ofList (request.credentials.filterMap fun c => (Token.parse c.token).toOption)

theorem SecurityRequest.mem_tokens {request : SecurityRequest} {token : Token} :
    token ∈ request.tokens ↔ ∃ c ∈ request.credentials, Token.parse c.token = .ok token := by
  rw [tokens, mem_tokenSet_ofList, List.mem_filterMap]
  refine exists_congr fun c => and_congr_right fun _ => ?_
  cases Token.parse c.token <;> simp [Except.toOption]

namespace Resolution

variable {request : SecurityRequest} {found : List (Token × SecurityCredentials)}
  {resolved : ResolvedResources} {resource : String}

/-- The token of each of some credentials, where they have one. -/
def tokensOf (credentials : List SecurityCredentials) :
    Except ResolutionError (List (Token × SecurityCredentials)) :=
  credentials.mapM fun c => do
    return (← (Token.parse c.token).mapError .malformedToken, c)

theorem tokensOf_cons_ok_iff {c : SecurityCredentials} {rest : List SecurityCredentials} :
    tokensOf (c :: rest) = .ok found ↔
      ∃ token others, Token.parse c.token = .ok token ∧ tokensOf rest = .ok others ∧
        found = (token, c) :: others := by
  rw [tokensOf, List.mapM_cons, except_bind_ok_iff]
  constructor
  · rintro ⟨entry, hentry, hrest⟩
    obtain ⟨token, htoken, hpair⟩ := except_bind_ok_iff.1 hentry
    obtain ⟨others, hothers, hfound⟩ := except_bind_ok_iff.1 hrest
    obtain rfl := except_pure_ok_iff.1 hpair
    exact ⟨token, others, mapError_ok_iff.1 htoken, hothers, (except_pure_ok_iff.1 hfound).symm⟩
  · rintro ⟨token, others, htoken, hothers, rfl⟩
    refine ⟨(token, c), except_bind_ok_iff.2 ⟨token, mapError_ok_iff.2 htoken, rfl⟩, ?_⟩
    exact except_bind_ok_iff.2 ⟨others, hothers, rfl⟩

theorem tokensOf_ok_iff {credentials : List SecurityCredentials} :
    tokensOf credentials = .ok found ↔
      found.map Prod.snd = credentials ∧
        ∀ entry ∈ found, Token.parse entry.2.token = .ok entry.1 := by
  induction credentials generalizing found with
  | nil =>
    constructor
    · intro h
      obtain rfl : [] = found := Except.ok.inj h
      simp
    · rintro ⟨h, -⟩
      rw [List.map_eq_nil_iff.1 h]
      rfl
  | cons c rest ih =>
    rw [tokensOf_cons_ok_iff]
    constructor
    · rintro ⟨token, others, htoken, hothers, rfl⟩
      obtain ⟨hmap, hparse⟩ := ih.1 hothers
      exact ⟨by rw [List.map_cons, hmap], List.forall_mem_cons.2 ⟨htoken, hparse⟩⟩
    · rintro ⟨hmap, hparse⟩
      obtain ⟨entry, others, rfl, rfl, hothers⟩ := List.map_eq_cons_iff.1 hmap
      obtain ⟨hentry, hrest⟩ := List.forall_mem_cons.1 hparse
      exact ⟨entry.1, others, hentry, ih.2 ⟨hothers, hrest⟩, rfl⟩

/-- **Presented tokens.** A request is taken apart exactly into its credentials, in their order,
each with its token. -/
theorem presented_ok_iff :
    presented request = .ok found ↔
      found.map Prod.snd = request.credentials ∧
        ∀ entry ∈ found, Token.parse entry.2.token = .ok entry.1 :=
  tokensOf_ok_iff

/-- A request whose texts are all tokens can be taken apart. -/
theorem exists_presented
    (h : ∀ c ∈ request.credentials, ∃ token, Token.parse c.token = .ok token) :
    ∃ found, presented request = .ok found := by
  have hlist : ∀ credentials : List SecurityCredentials,
      (∀ c ∈ credentials, ∃ token, Token.parse c.token = .ok token) →
        ∃ found, tokensOf credentials = .ok found := by
    intro credentials
    induction credentials with
    | nil => exact fun _ => ⟨[], rfl⟩
    | cons c rest ih =>
      intro hall
      obtain ⟨⟨token, htoken⟩, hrest⟩ := List.forall_mem_cons.1 hall
      obtain ⟨others, hothers⟩ := ih hrest
      exact ⟨_, tokensOf_cons_ok_iff.2 ⟨token, others, htoken, hothers, rfl⟩⟩
  exact hlist request.credentials h

def tokens (found : List (Token × SecurityCredentials)) : TokenSet :=
  Catalog.ofList (found.map Prod.fst)

theorem mem_tokens {token : Token} : token ∈ tokens found ↔ ∃ c, (token, c) ∈ found := by
  rw [tokens, mem_tokenSet_ofList, List.mem_map]
  constructor
  · rintro ⟨⟨_, c⟩, hmem, rfl⟩
    exact ⟨c, hmem⟩
  · rintro ⟨c, hmem⟩
    exact ⟨(token, c), hmem, rfl⟩

/-- What is found are the credentials of the request, each with the token that its text is. -/
theorem mem_presented_iff (hfound : presented request = .ok found) {token : Token}
    {c : SecurityCredentials} :
    (token, c) ∈ found ↔ c ∈ request.credentials ∧ Token.parse c.token = .ok token := by
  obtain ⟨hmap, hparse⟩ := presented_ok_iff.1 hfound
  rw [← hmap]
  constructor
  · intro hmem
    exact ⟨List.mem_map.2 ⟨(token, c), hmem, rfl⟩, hparse (token, c) hmem⟩
  · rintro ⟨hc, htoken⟩
    obtain ⟨⟨other, c⟩, hmem, rfl⟩ := List.mem_map.1 hc
    have hother : Token.parse c.token = .ok other := hparse (other, c) hmem
    obtain rfl : other = token := Except.ok.inj (hother.symm.trans htoken)
    exact hmem

/-- The tokens found are those of the request. -/
theorem tokens_presented (hfound : presented request = .ok found) :
    tokens found = request.tokens := by
  refine Catalog.ext_mem fun token => ?_
  simp only [mem_tokens, SecurityRequest.mem_tokens, mem_presented_iff hfound]

/-! ## Grouping

Credentials are put under their tokens one by one. Nothing is lost and nothing moves to another
token, however many credentials carry one. -/

namespace ByToken

variable {groups : ByToken} {token : Token} {c : SecurityCredentials}

theorem credentials?_eq_some_iff {credentials : List SecurityCredentials} :
    groups.credentials? token = some credentials ↔ (token, credentials) ∈ groups := by
  rw [credentials?, Option.map_eq_some_iff]
  constructor
  · rintro ⟨⟨other, _⟩, hfind, rfl⟩
    obtain ⟨hmem, htext⟩ := Catalog.find?_eq_some_iff.1 hfind
    obtain rfl : other = token := Token.ext_text htext
    exact hmem
  · intro hmem
    exact ⟨(token, credentials), Catalog.find?_of_mem hmem, rfl⟩

theorem mem_tokens_iff {groups : ByToken} :
    token ∈ groups.tokens ↔ ∃ credentials, (token, credentials) ∈ groups := by
  constructor
  · intro hmem
    obtain ⟨⟨_, credentials⟩, hentry, rfl⟩ := List.mem_map.1 hmem
    exact ⟨credentials, hentry⟩
  · rintro ⟨credentials, hentry⟩
    exact List.mem_map.2 ⟨(token, credentials), hentry, rfl⟩

/-- **One step.** The new credentials come last under their token, and nothing else changes. -/
theorem credentials?_add {other : Token} :
    (groups.add other c).credentials? token =
      if token = other then some ((groups.credentials? other).getD [] ++ [c])
      else groups.credentials? token := by
  refine Option.ext fun credentials => ?_
  rw [credentials?_eq_some_iff, add, Catalog.mem_insert]
  split
  · rename_i h
    rw [h]
    simp [Prod.ext_iff, eq_comm]
  · rename_i h
    have htext : token.text ≠ other.text := fun e => h (Token.ext_text e)
    rw [credentials?_eq_some_iff]
    simp [Prod.ext_iff, h, htext]

theorem ofList_snoc (found : List (Token × SecurityCredentials))
    (entry : Token × SecurityCredentials) :
    ofList (found ++ [entry]) = (ofList found).add entry.1 entry.2 := by
  unfold ofList
  rw [List.foldl_append]
  rfl

/-- **All steps.** Under a token stand the credentials that carry it, in their order. -/
theorem credentials?_ofList (found : List (Token × SecurityCredentials)) (token : Token) :
    ((ofList found).credentials? token).getD [] =
      (found.filter fun entry => entry.1 = token).map Prod.snd := by
  induction found using List.reverseRecOn with
  | nil => rfl
  | append_singleton found entry ih =>
    rw [ofList_snoc, credentials?_add, List.filter_append, List.map_append, ← ih]
    by_cases h : token = entry.1
    · subst h
      simp
    · have hother : ¬ entry.1 = token := fun e => h e.symm
      simp [h, hother]

theorem tokens_ofList (found : List (Token × SecurityCredentials)) :
    (ofList found).tokens = Resolution.tokens found := by
  refine Catalog.ext_mem fun token => ?_
  rw [Resolution.mem_tokens]
  induction found using List.reverseRecOn with
  | nil =>
    rw [mem_tokens_iff]
    simp [ofList]
  | append_singleton found entry ih =>
    obtain ⟨other, c⟩ := entry
    rw [mem_tokens_iff] at ih ⊢
    simp only [ofList_snoc, add, Catalog.mem_insert, List.mem_append, List.mem_singleton,
      exists_or, Prod.mk.injEq]
    rw [← ih]
    constructor
    · rintro (⟨_, rfl, rfl⟩ | ⟨credentials, hmem, -⟩)
      · exact Or.inr ⟨c, rfl, rfl⟩
      · exact Or.inl ⟨credentials, hmem⟩
    · rintro (⟨credentials, hmem⟩ | ⟨_, rfl, rfl⟩)
      · by_cases h : token.text = other.text
        · exact Or.inl ⟨_, Token.ext_text h, rfl⟩
        · exact Or.inr ⟨credentials, hmem, h⟩
      · exact Or.inl ⟨_, rfl, rfl⟩

/-- Going from some tokens back to their credentials leaves out no credentials. -/
theorem mem_flatten_credentials? {satisfying : List Token} {groups : ByToken} :
    c ∈ (satisfying.filterMap groups.credentials?).flatten ↔
      ∃ token ∈ satisfying, c ∈ (groups.credentials? token).getD [] := by
  simp only [List.mem_flatten, List.mem_filterMap]
  constructor
  · rintro ⟨credentials, ⟨token, htoken, hcredentials⟩, hc⟩
    exact ⟨token, htoken, by rwa [hcredentials]⟩
  · rintro ⟨token, htoken, hc⟩
    cases hcredentials : groups.credentials? token with
    | none =>
      rw [hcredentials] at hc
      cases hc
    | some credentials =>
      rw [hcredentials] at hc
      exact ⟨credentials, ⟨token, htoken, hcredentials⟩, hc⟩

end ByToken

/-! ## Opened resources -/

/-- Values that are changed or left out keep their names in order. -/
theorem names_filterMap_sublist {α β : Type} (f : α → Option β) (entries : List (String × α)) :
    ((entries.filterMap fun entry => (f entry.2).map fun b => (entry.1, b)).map Prod.fst).Sublist
      (entries.map Prod.fst) := by
  induction entries with
  | nil => exact .slnil
  | cons entry rest ih =>
    cases h : f entry.2 with
    | none =>
      rw [List.filterMap_cons_none (by rw [h]; rfl), List.map_cons]
      exact ih.cons _
    | some b =>
      rw [List.filterMap_cons_some (b := (entry.1, b)) (by rw [h]; rfl), List.map_cons]
      exact ih.cons_cons _

variable [Pattern.SizeLimit] {policies : ResourcePolicies}
  {listed : List (String × Option Policy)}

/-- A policy opens a resource when some token satisfies it. -/
theorem justified?_eq_some_iff {policy : Policy} {credentials : List SecurityCredentials} :
    justified? (.ofList found) policy = some credentials ↔
      (policy.satisfiedBy (tokens found)).Nonempty ∧
        credentials = distinct ((policy.satisfiedBy (tokens found)).toList.filterMap
          (ByToken.ofList found).credentials?).flatten := by
  unfold justified?
  rw [ByToken.tokens_ofList]
  cases hempty : (policy.satisfiedBy (tokens found)).isEmpty with
  | true =>
    have hnone := Catalog.not_nonempty_iff.2 (Catalog.isEmpty_iff.1 hempty)
    simp [hempty, hnone]
  | false =>
    have hsome := Catalog.isEmpty_eq_false_iff.1 hempty
    simp [hempty, hsome, eq_comm]

theorem justified?_eq_none_iff {policy : Policy} :
    justified? (.ofList found) policy = none ↔
      ¬ (policy.satisfiedBy (tokens found)).Nonempty := by
  rw [Option.eq_none_iff_forall_ne_some]
  constructor
  · intro hnone hsome
    exact hnone _ (justified?_eq_some_iff.2 ⟨hsome, rfl⟩)
  · intro hempty credentials hsome
    exact hempty (justified?_eq_some_iff.1 hsome).1

/-- It is opened by the credentials with satisfying tokens. -/
theorem mem_justified {policy : Policy} {credentials : List SecurityCredentials}
    (h : justified? (.ofList found) policy = some credentials) {c : SecurityCredentials} :
    c ∈ credentials ↔ ∃ token ∈ policy.satisfiedBy (tokens found), (token, c) ∈ found := by
  obtain ⟨-, rfl⟩ := justified?_eq_some_iff.1 h
  rw [mem_distinct, ByToken.mem_flatten_credentials?]
  refine exists_congr fun token => and_congr Iff.rfl ?_
  rw [ByToken.credentials?_ofList, List.mem_map]
  constructor
  · rintro ⟨⟨other, c⟩, hmem, rfl⟩
    obtain ⟨hin, hother⟩ := List.mem_filter.1 hmem
    obtain rfl : other = token := of_decide_eq_true hother
    exact hin
  · intro hmem
    exact ⟨(token, c), List.mem_filter.2 ⟨hmem, decide_eq_true rfl⟩, rfl⟩

/-- Resolving is possible when the request can be taken apart; the result lists what is opened. -/
theorem resolveListed_ok_iff :
    request.resolveListed listed = .ok resolved ↔
      ∃ found, presented request = .ok found ∧
        resolved = Catalog.ofList (listed.filterMap fun entry =>
          (opened? request (.ofList found) entry.2).map fun credentials =>
            (entry.1, credentials)) := by
  rw [SecurityRequest.resolveListed, except_bind_ok_iff]
  refine exists_congr fun found => and_congr_right fun _ => ?_
  rw [except_pure_ok_iff]
  exact eq_comm

theorem resolve_ok_iff :
    request.resolve policies = .ok resolved ↔
      ∃ found, presented request = .ok found ∧
        resolved = Catalog.ofList (policies.toList.filterMap fun entry =>
          (opened? request (.ofList found) entry.2).map fun credentials =>
            (entry.1, credentials)) :=
  resolveListed_ok_iff

/-- **Each resource is settled by its own policy.** A resource is open exactly when it is known and
its policy, or the lack of one, opens it, in whatever order the resources are gone through. -/
theorem resolveListed_get?_iff (hfound : presented request = .ok found)
    (hlisted : listed.Perm policies.toList)
    (hresolved : request.resolveListed listed = .ok resolved)
    {credentials : List SecurityCredentials} :
    resolved.get? resource = some credentials ↔
      ∃ policy, policies.get? resource = some policy ∧
        opened? request (.ofList found) policy = some credentials := by
  obtain ⟨found', hfound', rfl⟩ := resolveListed_ok_iff.1 hresolved
  obtain rfl : found = found' := Except.ok.inj (hfound.symm.trans hfound')
  have hnames : (listed.map Prod.fst).Nodup :=
    (hlisted.map Prod.fst).nodup_iff.2 (Catalog.nodup_keys policies)
  have hnodup : ((listed.filterMap fun entry =>
      (opened? request (.ofList found) entry.2).map fun cs => (entry.1, cs)).map Prod.fst).Nodup :=
    hnames.sublist (names_filterMap_sublist (opened? request (.ofList found)) listed)
  rw [Dictionary.get?_eq_some_iff, Catalog.mem_ofList_of_nodup hnodup, List.mem_filterMap]
  constructor
  · rintro ⟨⟨name, policy⟩, hmem, hopened⟩
    obtain ⟨cs, hcs, hpair⟩ := Option.map_eq_some_iff.1 hopened
    cases hpair
    exact ⟨policy, Dictionary.get?_eq_some_iff.2 (hlisted.mem_iff.1 hmem), hcs⟩
  · rintro ⟨policy, hget, hopened⟩
    have hmem := hlisted.mem_iff.2 (Dictionary.get?_eq_some_iff.1 hget)
    exact ⟨(resource, policy), hmem, by rw [hopened]; rfl⟩

theorem resolve_get?_iff (hfound : presented request = .ok found)
    (hresolved : request.resolve policies = .ok resolved)
    {credentials : List SecurityCredentials} :
    resolved.get? resource = some credentials ↔
      ∃ policy, policies.get? resource = some policy ∧
        opened? request (.ofList found) policy = some credentials :=
  resolveListed_get?_iff hfound (.refl _) hresolved

/-- What a policy demands of a request, when credentials count only if they are accepted. -/
def Opens (request : SecurityRequest) (accepted : SecurityCredentials → Prop) :
    Option Policy → Prop
  | none => ∀ c ∈ request.credentials, accepted c
  | some policy =>
    (policy.satisfiedBy request.tokens).Nonempty ∧
      ∀ c ∈ request.credentials, ∀ token ∈ policy.satisfiedBy request.tokens,
        Token.parse c.token = .ok token → accepted c

/-- All credentials that open a resource are accepted exactly when its policy says so. -/
theorem exists_get?_iff_opens (hresolved : request.resolve policies = .ok resolved)
    {accepted : SecurityCredentials → Prop} :
    (∃ credentials, resolved.get? resource = some credentials ∧ ∀ c ∈ credentials, accepted c) ↔
      ∃ policy, policies.get? resource = some policy ∧ Opens request accepted policy := by
  obtain ⟨found, hfound, -⟩ := resolve_ok_iff.1 hresolved
  have htokens : tokens found = request.tokens := tokens_presented hfound
  simp only [resolve_get?_iff hfound hresolved, Opens]
  constructor
  · rintro ⟨credentials, ⟨policy, hpolicy, hopened⟩, haccepted⟩
    refine ⟨policy, hpolicy, ?_⟩
    cases policy with
    | none =>
      obtain rfl : request.credentials = credentials := Option.some.inj hopened
      exact haccepted
    | some policy =>
      obtain ⟨hsome, -⟩ := justified?_eq_some_iff.1 hopened
      rw [← htokens]
      refine ⟨hsome, fun c hc token htoken hparse => haccepted c ?_⟩
      exact (mem_justified hopened).2 ⟨token, htoken, (mem_presented_iff hfound).2 ⟨hc, hparse⟩⟩
  · rintro ⟨policy, hpolicy, hopens⟩
    cases policy with
    | none => exact ⟨request.credentials, ⟨none, hpolicy, rfl⟩, hopens⟩
    | some policy =>
      obtain ⟨hsome, hall⟩ := hopens
      rw [← htokens] at hsome hall
      have hopened := justified?_eq_some_iff.2 ⟨hsome, rfl⟩
      refine ⟨_, ⟨some policy, hpolicy, hopened⟩, fun c hc => ?_⟩
      obtain ⟨token, htoken, hmem⟩ := (mem_justified hopened).1 hc
      obtain ⟨hin, hparse⟩ := (mem_presented_iff hfound).1 hmem
      exact hall c hin token htoken hparse

theorem resolveListed_error_iff {e : ResolutionError} :
    request.resolveListed listed = .error e ↔ presented request = .error e := by
  rw [SecurityRequest.resolveListed]
  cases presented request with
  | error e' => simp [bind, Except.bind]
  | ok found => simp [bind, Except.bind, pure, Except.pure]

theorem resolve_error_iff {e : ResolutionError} :
    request.resolve policies = .error e ↔ presented request = .error e :=
  resolveListed_error_iff

/-- Whether a request can be resolved does not depend on the policies. -/
theorem exists_resolve (policies : ResourcePolicies) (h : presented request = .ok found) :
    ∃ resolved, request.resolve policies = .ok resolved :=
  ⟨_, resolve_ok_iff.2 ⟨found, h, rfl⟩⟩

end Resolution

/-! ## Orders -/

namespace ResolvedResources

variable {resolved : ResolvedResources} {visited : List (String × List SecurityCredentials)}
  {resource : String} {credentials : List SecurityCredentials}

def Justifies (resolved : ResolvedResources) (c : SecurityCredentials) : Prop :=
  ∃ resource credentials, resolved.get? resource = some credentials ∧ c ∈ credentials

theorem Lists.visited_of_get? (lists : resolved.Lists visited)
    (h : resolved.get? resource = some credentials) :
    ∃ looked, (resource, looked) ∈ visited ∧ looked.Perm credentials := by
  have hname : resource ∈ resolved.names :=
    List.mem_map.2 ⟨(resource, credentials), Dictionary.get?_eq_some_iff.1 h, rfl⟩
  obtain ⟨entry, hentry, rfl⟩ := List.mem_map.1 (lists.names_perm.mem_iff.2 hname)
  obtain ⟨opening, hopening, hperm⟩ := lists.credentials_perm entry hentry
  obtain rfl : opening = credentials := Option.some.inj (hopening.symm.trans h)
  exact ⟨entry.2, hentry, hperm⟩

theorem Lists.justifies (lists : resolved.Lists visited) :
    ∀ entry ∈ visited, ∀ c ∈ entry.2, resolved.Justifies c := by
  intro entry hentry c hc
  obtain ⟨opening, hopening, hperm⟩ := lists.credentials_perm entry hentry
  exact ⟨entry.1, opening, hopening, hperm.mem_iff.1 hc⟩

end ResolvedResources

/-- The other way round: the last resource first, and of each the last credentials first. -/
def VisitingOrder.backwards : VisitingOrder where
  visit resolved := resolved.toList.reverse.map fun entry => (entry.1, entry.2.reverse)
  lists resolved :=
    { names_perm := by
        rw [List.map_map, List.map_reverse]
        exact List.reverse_perm _
      credentials_perm := by
        intro visited hvisited
        obtain ⟨entry, hentry, rfl⟩ := List.mem_map.1 hvisited
        refine ⟨entry.2, ?_, List.reverse_perm _⟩
        exact Dictionary.get?_of_mem (List.mem_reverse.1 hentry) }

end FederatedAccess
