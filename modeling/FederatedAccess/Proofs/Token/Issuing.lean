import FederatedAccess.Proofs.Key.Document
import FederatedAccess.Proofs.Token.RoundTrip
import FederatedAccess.Proofs.Token.Validity

/-!
# What an issued token means

Issuing fails for one reason only, a validity beyond the greatest time (`issueAt_error_iff`). Else the
token says what was requested, and the issuer's key settles its status for all its life (`Fulfils`).
-/

namespace FederatedAccess

/-! ## Status of a signed token -/

/-- The status of a token that its signer's key is asked about: valid until its end, put off by the
leeway as far as times go, and expired from then on. -/
def Validator.statusAt (validator : Validator) (claims : Claims) (now : Int64) : ValidationStatus :=
  if now.toInt < min (claims.expiration.toInt + min validator.leeway.seconds.toNat Time.greatest)
    Time.greatest then .valid else .expired

/-- Of a token that is signed under the key it is checked with, only the time settles the status. -/
theorem Validator.check_of_isSignedBy {validator : Validator} {decoded : DecodedToken}
    {given : Option Ed25519.PublicKey} {key : Ed25519.PublicKey} (now : Int64)
    (halgorithm : decoded.header.algorithm = acceptedAlgorithm)
    (hkey : issuerKey decoded given = .ok key) (hsigned : isSignedBy decoded key = true) :
    validator.check decoded given now = .ok (validator.statusAt decoded.claims now) := by
  have hend : ¬ validator.deadline decoded.claims ≤ now ↔ _ := not_deadline_le_iff
  unfold check
  by_cases hlate : validator.deadline decoded.claims ≤ now
  · rw [statusAt, if_neg (fun h => hend.2 h hlate)]
    simp [halgorithm, hkey, hsigned, hlate, bind, Except.bind, pure, Except.pure]
  · rw [statusAt, if_pos (hend.1 hlate)]
    simp [halgorithm, hkey, hsigned, hlate, bind, Except.bind, pure, Except.pure]

/-! ## Attributes -/

/-- An attribute is found under its name behind the reserved start, and under its plain name unless
this starts like a prefixed one. -/
theorem Claims.attribute?_of_mem {claims : Claims} {name value : String}
    (h : (name, value) ∈ claims.attributes) :
    claims.attribute? (attributePrefix ++ name) = some value ∧
      ((∀ rest, name ≠ attributePrefix ++ rest) → claims.attribute? name = some value) := by
  constructor
  · rw [attribute?, withoutPrefix?_append]
    exact Dictionary.get?_of_mem h
  · intro hplain
    have hnone : withoutPrefix? name = none :=
      Option.eq_none_iff_forall_ne_some.2 fun rest hrest =>
        hplain rest (withoutPrefix?_eq_some_iff.1 hrest)
    rw [attribute?, hnone]
    exact Dictionary.get?_of_mem h

/-- Claims without members of other names always come through. -/
theorem Claims.transportable_of_extra {claims : Claims} (h : claims.extra = Catalog.empty) :
    claims.Transportable := by
  have hnone : ∀ m, m ∉ claims.extra := fun m hm => Catalog.not_mem_empty m (h ▸ hm)
  exact ⟨fun m hm => absurd hm (hnone m), fun m hm => absurd hm (hnone m),
    fun m hm => absurd hm (hnone m), fun m hm => absurd hm (hnone m)⟩

namespace TokenIssuer

variable {issuer : TokenIssuer} {request : TokenRequest} {issuedAt : Int64} {tokenId : String}

/-! ## Signing -/

/-- Strict verification takes the signature that the issuer makes of the claims. -/
def SignsAcceptably (issuer : TokenIssuer) (claims : Claims) : Prop :=
  let message := Utf8.encode (signingInput header (.object claims.toBody.toList))
  issuer.key.publicKey.verifiesStrictly message (issuer.key.sign message) = true

/-- **Status of signed claims.** The key that signed settles it, given or found in the claims. -/
theorem validateAt_signClaims {claims : Claims} (transportable : claims.Transportable)
    (accepted : issuer.SignsAcceptably claims) (hkey : claims.issuerKey = issuer.key.publicKey.wire)
    (validator : Validator) (now : Int64) {given : Option Ed25519.PublicKey}
    (hgiven : given = some issuer.key.publicKey ∨ given = none) :
    validator.validateAt (issuer.signClaims claims) given now =
      .ok (validator.statusAt claims now) := by
  have hfound : Validator.issuerKey (issuer.signed transportable).decoded given =
      .ok issuer.key.publicKey := by
    rcases hgiven with rfl | rfl
    · rfl
    · -- the key verifies the signature, so it is a point and comes back from its wire form
      rw [Validator.issuerKey, signed_claims, hkey, Ed25519.PublicKey.ofWire_wire
        (Ed25519.PublicKey.isPoint_of_verifiesStrictly accepted), mapError_ok]
  exact (Validator.validateAt_text (issuer.signed transportable) given).trans
    (Validator.check_of_isSignedBy now rfl hfound accepted)

/-! ## Requests -/

/-- The end of a token lies its validity after its issue, or at the end of time. -/
theorem toInt_expiration {validity : Duration} {result : Int64}
    (h : expiration validity issuedAt = .ok result) :
    result.toInt = min (issuedAt.toInt + validity.seconds.toNat) Time.greatest := by
  unfold expiration at h
  split at h
  · rename_i hfits
    -- a validity only adds, so the sum is never cut off at the least time
    have hissued := Time.neg_greatest_le_toInt issuedAt
    have hgreatest : Time.greatest = 0x7fffffffffffffff := rfl
    obtain rfl := Except.ok.inj h
    rw [Time.toInt_add, Time.toInt_ofNat]
    omega
  · cases h

theorem expiration_error_iff (issuedAt : Int64) {validity : Duration} {e : IssuerError} :
    expiration validity issuedAt = .error e ↔
      Time.greatest < validity.seconds.toNat ∧ e = .validity validity.seconds := by
  have hgreatest : Time.greatest = 0x7fffffffffffffff := rfl
  unfold expiration
  split
  · rename_i hfits
    simp only [reduceCtorEq, false_iff]
    omega
  · rename_i hlarge
    rw [Except.error.injEq, eq_comm, iff_and_self]
    omega

/-- Issuing fails only where the validity does not fit. -/
theorem issueAt_error_iff {e : IssuerError} :
    issuer.issueAt request issuedAt tokenId = .error e ↔
      Time.greatest < request.validity.seconds.toNat ∧ e = .validity request.validity.seconds := by
  rw [← expiration_error_iff issuedAt, issueAt, claimsAt]
  cases expiration request.validity issuedAt with
  | error found => simp [bind, Except.bind]
  | ok result => exact iff_of_false nofun nofun

/-- What claims say that answer a request. -/
structure Answers (issuer : TokenIssuer) (request : TokenRequest) (issuedAt : Int64)
    (claims : Claims) : Prop where
  issuer_eq : claims.issuer = issuer.name
  subject_eq : claims.subject = request.subject
  tokenType_eq : claims.tokenType = request.tokenType
  issuedAt_eq : claims.issuedAt = some issuedAt
  expiration_eq : claims.expiration.toInt =
    min (issuedAt.toInt + request.validity.seconds.toNat) Time.greatest
  issuerKey_eq : claims.issuerKey = issuer.key.publicKey.wire
  subjectKey_eq : claims.subjectKey = request.subjectKey.map (·.wire)
  attributes_eq : claims.attributes = request.attributes
  extra_eq : claims.extra = Catalog.empty

theorem answers_of_claimsAt {claims : Claims}
    (h : issuer.claimsAt request issuedAt tokenId = .ok claims) :
    issuer.Answers request issuedAt claims := by
  obtain ⟨expiration, hexpiration, hpure⟩ := except_bind_ok_iff.1 h
  obtain rfl := except_pure_ok_iff.1 hpure
  exact ⟨rfl, rfl, rfl, rfl, toInt_expiration hexpiration, rfl, rfl, rfl, rfl⟩

/-- What a token means that answers a request. -/
structure Fulfils (issuer : TokenIssuer) (request : TokenRequest) (issuedAt : Int64)
    (token : Token) : Prop where
  /-- It says what was requested. -/
  answers : issuer.Answers request issuedAt token.claims
  /-- Every requested attribute is found behind the reserved start. -/
  prefixed : ∀ name value, (name, value) ∈ request.attributes →
    token.attribute? (attributePrefix ++ name) = some value
  /-- So it is under its plain name, unless this has the reserved start itself. -/
  plain : ∀ name value, (name, value) ∈ request.attributes →
    (∀ rest, name ≠ attributePrefix ++ rest) → token.attribute? name = some value
  /-- The issuer's key, given or found in the token, settles the status at any time. -/
  status : ∀ (validator : Validator) (now : Int64) (given : Option Ed25519.PublicKey),
    given = some issuer.key.publicKey ∨ given = none →
      validator.validateAt token.text given now = .ok (validator.statusAt token.claims now)

theorem exists_fulfils {claims : Claims}
    (hclaims : issuer.claimsAt request issuedAt tokenId = .ok claims)
    (accepted : issuer.SignsAcceptably claims) :
    ∃ token, token.text = issuer.signClaims claims ∧ Token.parse token.text = .ok token ∧
      issuer.Fulfils request issuedAt token := by
  have answers := answers_of_claimsAt hclaims
  have transportable := Claims.transportable_of_extra answers.extra_eq
  refine ⟨issuer.signed transportable, rfl, Token.parse_text _, answers, ?_, ?_, ?_⟩
  · intro name value h
    rw [← answers.attributes_eq] at h
    exact (Claims.attribute?_of_mem h).1
  · intro name value h
    rw [← answers.attributes_eq] at h
    exact (Claims.attribute?_of_mem h).2
  · intro validator now given hgiven
    exact validateAt_signClaims transportable accepted answers.issuerKey_eq validator now hgiven

/-- **Issued tokens mean what was requested.** An issuer refuses a request exactly when its validity
does not fit into a claim. Any other it answers with a token that says what was requested and whose
status its key settles at all times, if strict verification takes the signature. -/
theorem issued_fulfils_request (issuer : TokenIssuer) (request : TokenRequest) (issuedAt : Int64)
    (tokenId : String)
    (accepted : ∀ claims, issuer.claimsAt request issuedAt tokenId = .ok claims →
      issuer.SignsAcceptably claims) :
    (∀ e, issuer.issueAt request issuedAt tokenId = .error e ↔
      Time.greatest < request.validity.seconds.toNat ∧ e = .validity request.validity.seconds) ∧
    (request.validity.seconds.toNat ≤ Time.greatest →
      ∃ token, issuer.issueAt request issuedAt tokenId = .ok token.text ∧
        Token.parse token.text = .ok token ∧ issuer.Fulfils request issuedAt token) := by
  refine ⟨fun e => issueAt_error_iff, fun hfits => ?_⟩
  cases hissued : issuer.issueAt request issuedAt tokenId with
  | error e => exact absurd (issueAt_error_iff.1 hissued).1 (Nat.not_lt.2 hfits)
  | ok text =>
    obtain ⟨claims, hclaims, hpure⟩ := except_bind_ok_iff.1 hissued
    obtain ⟨token, htext, hparse, hfulfils⟩ := exists_fulfils hclaims (accepted claims hclaims)
    exact ⟨token, by rw [htext, ← except_pure_ok_iff.1 hpure], hparse, hfulfils⟩

/-! ## A token at the end of time -/

def lastIssuer : TokenIssuer := ⟨"p", .uniform 7⟩

/-- A request for a token that outlasts time. One attribute is named like a claim, the other like a
prefixed one. -/
def lastRequest : TokenRequest where
  subject := ""
  tokenType := .foreign
  attributes := Catalog.ofList [("iss", "q"), ("SYMBIOTE_", "é")]
  validity := Duration.ofSeconds 2

/-- The claims of the request one second before the end of time. -/
def lastClaims : Claims where
  issuer := "p"
  subject := ""
  expiration := Int64.maxValue
  issuedAt := some (Int64.maxValue - 1)
  tokenId := some ""
  issuerKey := lastIssuer.key.publicKey.wire
  subjectKey := none
  tokenType := .foreign
  attributes := Catalog.ofList [("iss", "q"), ("SYMBIOTE_", "é")]
  extra := Catalog.empty

theorem lastClaims_accepted : lastIssuer.SignsAcceptably lastClaims := by
  show lastIssuer.key.publicKey.verifiesStrictly _ _ = true
  decide +kernel

/-- The token ends with time. One second before, it is valid; then it has expired, even to those who
would take it longer. -/
theorem last_token_fulfils :
    (∀ claims, lastIssuer.claimsAt lastRequest (Int64.maxValue - 1) "" = .ok claims →
      lastIssuer.SignsAcceptably claims) ∧
    ∃ token : Token, lastIssuer.issueAt lastRequest (Int64.maxValue - 1) "" = .ok token.text ∧
      token.claims.expiration = Int64.maxValue ∧
      token.attribute? "SYMBIOTE_SYMBIOTE_" = some "é" ∧ token.attribute? "iss" = some "q" ∧
      Validator.validateAt {} token.text none (Int64.maxValue - 1) = .ok .valid ∧
      Validator.validateAt ⟨Duration.ofSeconds 60⟩ token.text (some lastIssuer.key.publicKey)
        Int64.maxValue = .ok .expired := by
  have hclaims : lastIssuer.claimsAt lastRequest (Int64.maxValue - 1) "" = .ok lastClaims := by
    rfl
  have accepted : ∀ claims, lastIssuer.claimsAt lastRequest (Int64.maxValue - 1) "" = .ok claims →
      lastIssuer.SignsAcceptably claims := by
    intro claims h
    obtain rfl := Except.ok.inj (hclaims.symm.trans h)
    exact lastClaims_accepted
  refine ⟨accepted, ?_⟩
  obtain ⟨token, hissued, -, answers, hprefixed, hplain, hstatus⟩ :=
    (issued_fulfils_request lastIssuer lastRequest (Int64.maxValue - 1) "" accepted).2 (by decide)
  have hexpiration : token.claims.expiration = Int64.maxValue :=
    Int64.toInt_inj.1 answers.expiration_eq
  refine ⟨token, hissued, hexpiration, ?_, ?_, ?_, ?_⟩
  · exact hprefixed "SYMBIOTE_" "é" (Dictionary.get?_eq_some_iff.1 rfl)
  · have hname : withoutPrefix? "iss" = none := by decide
    refine hplain "iss" "q" (Dictionary.get?_eq_some_iff.1 rfl) fun rest hrest => ?_
    exact Option.some_ne_none rest ((withoutPrefix?_eq_some_iff.2 hrest).symm.trans hname)
  · rw [hstatus _ _ none (Or.inr rfl), Validator.statusAt, hexpiration]
    rfl
  · rw [hstatus _ _ _ (Or.inl rfl), Validator.statusAt, hexpiration]
    rfl

end TokenIssuer

end FederatedAccess
