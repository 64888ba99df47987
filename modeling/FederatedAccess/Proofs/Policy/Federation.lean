import FederatedAccess.Policy
import FederatedAccess.Proofs.Number.Numeral
import FederatedAccess.Proofs.Token.Issuing

/-!
# What a foreign token opens

An issuer turns a home token into a foreign one and adds its federations as attributes under counted
names. The policy of a federation looks at every attribute whose name starts like theirs. So it is
satisfied by the federations that the issuer adds, and also by what the home token has under such a
name, unless the issuer uses this name itself (`exists_named_iff`). A home token can therefore bring
along a federation that the issuer does not give.
-/

namespace FederatedAccess

namespace TokenIssuer

variable {federations : List String} {name value : String}

/-! ## Attributes of a foreign token -/

/-- The name of the attribute for the federation at a position. -/
def federationName (position : Nat) : String :=
  federationPrefix ++ Numeral.ofNat (position + 1)

theorem federationName_injective : Function.Injective federationName := by
  intro i j h
  have hlists := congrArg String.toList h
  rw [federationName, federationName, String.toList_append, String.toList_append] at hlists
  exact Nat.succ.inj (Numeral.ofNat_injective (String.toList_inj.1 (List.append_cancel_left hlists)))

theorem prefix_federationName (position : Nat) :
    federationPrefix.toList <+: (federationName position).toList := by
  rw [federationName, String.toList_append]
  exact List.prefix_append _ _

/-- **Attributes of a foreign token.** They are the federations, each under its counted name, and
the attributes of the home token under all other names. -/
theorem mem_withFederations {attributes : Dictionary String} :
    (name, value) ∈ withFederations attributes federations ↔
      (∃ i, federations[i]? = some value ∧ name = federationName i) ∨
        ((name, value) ∈ attributes ∧ ∀ i < federations.length, name ≠ federationName i) := by
  have hfold : withFederations attributes federations =
      (federations.zipIdx.map fun entry => (federationName entry.2, entry.1)).foldl
        (fun catalog a => catalog.insert a) attributes := by
    rw [List.foldl_map]
    rfl
  have hnames : (federations.zipIdx.map fun entry => (federationName entry.2, entry.1)).map
      Prod.fst = (List.range' 0 federations.length).map federationName := by
    rw [← List.zipIdx_map_snd, List.map_map, List.map_map]
    rfl
  have hnodup : ((federations.zipIdx.map fun entry => (federationName entry.2, entry.1)).map
      Prod.fst).Nodup := by
    rw [hnames]
    exact List.Nodup.map federationName_injective (List.nodup_range' ..)
  -- the federations come last and drive out what stood under their names
  rw [hfold, Catalog.mem_foldl_insert_iff hnodup, hnames]
  refine or_congr ?_ (and_congr_right fun _ => ?_)
  · rw [List.mem_map]
    constructor
    · rintro ⟨⟨federation, i⟩, hmem, hentry⟩
      obtain ⟨rfl, rfl⟩ := Prod.mk.inj hentry
      exact ⟨i, List.mk_mem_zipIdx_iff_getElem?.1 hmem, rfl⟩
    · rintro ⟨i, hi, rfl⟩
      exact ⟨(value, i), List.mk_mem_zipIdx_iff_getElem?.2 hi, rfl⟩
  · simp [List.mem_range', eq_comm]

/-- The home token names a federation by itself: one of its attributes is taken for a federation
and has a name that the issuer does not use for one of its own. -/
def BringsAlong (home : Token) (federations : List String) (federation : String) : Prop :=
  ∃ name, (name, federation) ∈ home.claims.attributes ∧ federationPrefix.toList <+: name.toList ∧
    ∀ i < federations.length, name ≠ federationName i

/-- A foreign token names the federations that its issuer adds and those that the home token brings
along. -/
theorem exists_named_iff {home : Token} {federation : String} :
    (∃ name, (name, federation) ∈ withFederations home.claims.attributes federations ∧
        federationPrefix.toList <+: name.toList) ↔
      federation ∈ federations ∨ BringsAlong home federations federation := by
  constructor
  · rintro ⟨name, hmem, hstart⟩
    rcases mem_withFederations.1 hmem with ⟨i, hi, -⟩ | ⟨hhome, hfree⟩
    · exact Or.inl (List.mem_of_getElem? hi)
    · exact Or.inr ⟨name, hhome, hstart, hfree⟩
  · rintro (hgiven | ⟨name, hhome, hstart, hfree⟩)
    · obtain ⟨i, hi⟩ := List.mem_iff_getElem?.1 hgiven
      exact ⟨_, mem_withFederations.2 (Or.inl ⟨i, hi, rfl⟩), prefix_federationName i⟩
    · exact ⟨name, mem_withFederations.2 (Or.inr ⟨hhome, hfree⟩), hstart⟩

/-! ## Foreign tokens -/

/-- A validity that fits gives a foreign token. -/
theorem exists_foreignToken (issuer : TokenIssuer) (home : Token) (federations : List String)
    (validity : Duration) (now : Int64) (tokenId : String)
    (fits : validity.seconds.toNat ≤ Time.greatest) :
    ∃ token, issuer.foreignToken home federations validity now tokenId = .ok token.text ∧
      Token.parse token.text = .ok token ∧ token.tokenType = .foreign ∧
      token.issuer = issuer.name ∧
      token.claims.attributes = withFederations home.claims.attributes federations := by
  cases hexpiration : expiration validity now with
  | error e => exact absurd ((expiration_error_iff now).1 hexpiration).1 (Nat.not_lt.2 fits)
  | ok result =>
    obtain ⟨claims, hclaims, hissuer, htype, hattributes, hextra⟩ :
        ∃ claims, issuer.foreignClaims home federations validity now tokenId = .ok claims ∧
          claims.issuer = issuer.name ∧ claims.tokenType = .foreign ∧
          claims.attributes = withFederations home.claims.attributes federations ∧
          claims.extra = Catalog.empty := by
      rw [foreignClaims, hexpiration]
      exact ⟨_, rfl, rfl, rfl, rfl, rfl⟩
    refine ⟨issuer.signed (Claims.transportable_of_extra hextra), ?_, Token.parse_text _, htype,
      hissuer, hattributes⟩
    rw [foreignToken, hclaims]
    rfl

end TokenIssuer

/-! ## Policies of federations -/

namespace FederationPolicy

open TokenIssuer

theorem isFederationToken_iff {policy : FederationPolicy} {token : Token} :
    policy.isFederationToken token = true ↔
      token.tokenType = .foreign ∧ policy.members.contains token.issuer = true ∧
        ∃ name, (name, policy.federation) ∈ token.claims.attributes ∧
          federationPrefix.toList <+: name.toList := by
  unfold isFederationToken
  rw [Bool.and_eq_true, Bool.and_eq_true, decide_eq_true_eq, and_assoc, List.any_eq_true]
  refine and_congr_right fun _ => and_congr_right fun _ => ?_
  constructor
  · rintro ⟨⟨name, value⟩, hmem, h⟩
    obtain ⟨hstart, hvalue⟩ := Bool.and_eq_true_iff.1 h
    obtain rfl : value = policy.federation := of_decide_eq_true hvalue
    exact ⟨name, hmem, List.isPrefixOf_iff_prefix.1 hstart⟩
  · rintro ⟨name, hmem, hstart⟩
    exact ⟨_, hmem, Bool.and_eq_true_iff.2
      ⟨List.isPrefixOf_iff_prefix.2 hstart, decide_eq_true rfl⟩⟩

/-- A foreign token satisfies the policy by itself exactly when it is one of the federation. -/
theorem satisfiedBy_foreign_iff {policy : FederationPolicy} {token : Token}
    (hforeign : token.tokenType = .foreign) :
    policy.satisfiedBy (Catalog.ofList [token]) = Catalog.ofList [token] ↔
      policy.isFederationToken token = true := by
  have hhome : policy.isHomeToken token = false := by simp [isHomeToken, hforeign]
  rw [satisfiedBy, Catalog.firstWith_singleton_eq_iff, hhome, Bool.false_or]

/-- **What a foreign token opens.** A validity that fits gives a foreign token, and by itself it
satisfies the policy of a federation exactly when its issuer is a member and the federation is among
those that the issuer adds or is brought along by the home token. -/
theorem foreign_token_opens_iff (issuer : TokenIssuer) (home : Token) (federations : List String)
    (validity : Duration) (now : Int64) (tokenId : String) (policy : FederationPolicy)
    (fits : validity.seconds.toNat ≤ Time.greatest) :
    ∃ token, issuer.foreignToken home federations validity now tokenId = .ok token.text ∧
      Token.parse token.text = .ok token ∧
      (policy.satisfiedBy (Catalog.ofList [token]) = Catalog.ofList [token] ↔
        policy.members.contains issuer.name = true ∧
          (policy.federation ∈ federations ∨ BringsAlong home federations policy.federation)) := by
  obtain ⟨token, htext, hparse, hforeign, hissuer, hattributes⟩ :=
    exists_foreignToken issuer home federations validity now tokenId fits
  refine ⟨token, htext, hparse, ?_⟩
  rw [satisfiedBy_foreign_iff hforeign, isFederationToken_iff, and_iff_right hforeign, hissuer,
    hattributes, exists_named_iff]

/-! ## A federation that is brought along -/

def member : TokenIssuer := ⟨"p", .uniform 7⟩

/-- The federation `f` of `h` and `p`. -/
def memberPolicy : FederationPolicy where
  members := Catalog.ofList ["h", "p"]
  home := "h"
  federation := "f"
  named := by decide
  home_mem := by decide

/-- A home token that names the federation under the second counted name. -/
def namingClaims : Claims where
  issuer := "h"
  subject := "s"
  expiration := 0
  issuedAt := none
  tokenId := none
  issuerKey := ""
  subjectKey := none
  tokenType := .home
  attributes := Dictionary.single "federation_2" "f"
  extra := Catalog.empty

def namingToken : Token :=
  TokenIssuer.signed ⟨"h", .uniform 9⟩
    (Claims.transportable_of_extra (rfl : namingClaims.extra = Catalog.empty))

/-- It brings the federation along as long as the issuer does not get to the second name. -/
theorem bringsAlong_namingToken_iff {federations : List String} :
    BringsAlong namingToken federations "f" ↔ federations.length ≤ 1 := by
  -- positions count from zero, names from one
  have hsecond : "federation_2" = federationName 1 := by decide
  have hmem : ∀ name, (name, "f") ∈ namingToken.claims.attributes ↔ name = "federation_2" := by
    intro name
    rw [← Dictionary.get?_eq_some_iff]
    exact Dictionary.get?_single_iff.trans (and_iff_left rfl)
  constructor
  · rintro ⟨name, hname, -, hfree⟩
    rw [(hmem name).1 hname] at hfree
    exact Nat.not_lt.1 fun hlong => hfree 1 hlong hsecond
  · intro hshort
    refine ⟨"federation_2", (hmem _).2 rfl, by decide, fun i hi hname => ?_⟩
    have := federationName_injective (hsecond.symm.trans hname)
    omega

/-- The member's own federation drives out the one that is brought along only if it comes under the
same name. -/
theorem naming_token_opens :
    (Duration.ofSeconds 60).seconds.toNat ≤ Time.greatest ∧
    (∃ token, member.foreignToken namingToken ["g"] (Duration.ofSeconds 60) 0 "" = .ok token.text ∧
      memberPolicy.satisfiedBy (Catalog.ofList [token]) = Catalog.ofList [token]) ∧
    ∃ token,
      member.foreignToken namingToken ["g", "k"] (Duration.ofSeconds 60) 0 "" = .ok token.text ∧
        memberPolicy.satisfiedBy (Catalog.ofList [token]) ≠ Catalog.ofList [token] := by
  have fits : (Duration.ofSeconds 60).seconds.toNat ≤ Time.greatest := by decide
  refine ⟨fits, ?_, ?_⟩
  · obtain ⟨token, htext, -, hopens⟩ := foreign_token_opens_iff member namingToken ["g"]
      (Duration.ofSeconds 60) 0 "" memberPolicy fits
    refine ⟨token, htext, hopens.2 ⟨by decide, Or.inr ?_⟩⟩
    exact bringsAlong_namingToken_iff.2 (by decide)
  · obtain ⟨token, htext, -, hopens⟩ := foreign_token_opens_iff member namingToken ["g", "k"]
      (Duration.ofSeconds 60) 0 "" memberPolicy fits
    refine ⟨token, htext, fun h => ?_⟩
    rcases (hopens.1 h).2 with hgiven | hbrought
    · exact absurd hgiven (by decide)
    · exact absurd (bringsAlong_namingToken_iff.1 hbrought) (by decide)

/-- **Brought along.** A foreign token of a member can satisfy the policy of a federation that the
member did not add: here it added none. -/
theorem federation_brought_along :
    ¬ ∀ (issuer : TokenIssuer) (home : Token) (federations : List String) (validity : Duration)
      (now : Int64) (tokenId : String) (policy : FederationPolicy) (text : String) (token : Token),
      validity.seconds.toNat ≤ Time.greatest →
      issuer.foreignToken home federations validity now tokenId = .ok text →
      Token.parse text = .ok token →
        (policy.satisfiedBy (Catalog.ofList [token]) = Catalog.ofList [token] ↔
          policy.members.contains issuer.name = true ∧ policy.federation ∈ federations) := by
  intro claim
  have fits : (Duration.ofSeconds 60).seconds.toNat ≤ Time.greatest := by decide
  obtain ⟨token, htext, hparse, hforeign, hissuer, hattributes⟩ :=
    exists_foreignToken member namingToken [] (Duration.ofSeconds 60) 0 "" fits
  have hopens : memberPolicy.isFederationToken token = true := by
    rw [isFederationToken_iff, hissuer, hattributes, exists_named_iff]
    exact ⟨hforeign, by decide, Or.inr (bringsAlong_namingToken_iff.2 (by decide))⟩
  have hgiven := ((claim _ _ _ _ _ _ memberPolicy _ _ fits htext hparse).1
    ((satisfiedBy_foreign_iff hforeign).2 hopens)).2
  exact List.not_mem_nil hgiven

end FederationPolicy

end FederatedAccess
