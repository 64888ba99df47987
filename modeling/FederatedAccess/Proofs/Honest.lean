import FederatedAccess.Proofs.Possession
import FederatedAccess.Proofs.Token.Issuing
import FederatedAccess.Proofs.Transport

/-!
# Honest proofs

Whoever holds the keys of its tokens is taken at its word exactly as long as the time of the proof is
fresh, in a request (`verifyRequest_of_isHonest`), in a challenge (`verifyChallenge_of_isHonest`) and
in the response of a service (`verifyResponse_serviceResponse`). What the prover signs and what the
verifier checks is the same text, whether it was sent through JSON or not.
-/

namespace FederatedAccess

/-! ## Provers -/

/-- Verification takes the signature that the key makes of a text. -/
def Ed25519.SecretKey.SignsAcceptably (key : SecretKey) (text : String) : Prop :=
  key.publicKey.verifies (Utf8.encode text) (key.sign (Utf8.encode text)) = true

theorem Ed25519.SecretKey.SignsAcceptably.verifiesText {key : SecretKey} {text : String}
    (h : key.SignsAcceptably text) : key.publicKey.verifiesText text (key.signText text) = true := by
  rw [PublicKey.verifiesText_signText]
  exact h

namespace AuthorizationCredentials

/-- A guest, or the holder of the key that the token names. -/
def IsHonest (auth : AuthorizationCredentials) : Prop :=
  auth.token.tokenType = .guest ∨ ∃ wire, auth.token.claims.subjectKey = some wire ∧
    Ed25519.PublicKey.ofWire wire = .ok auth.home.key.publicKey

/-- The holder of a key signs proofs that verification takes; guests sign none that matter. -/
def ProvesAt (auth : AuthorizationCredentials) (timestamp : Int64) : Prop :=
  auth.token.tokenType ≠ .guest →
    auth.home.key.SignsAcceptably (Proof.challengeHash auth.token.text timestamp)

variable {auth : AuthorizationCredentials} {timestamp : Int64}

theorem IsHonest.subjectKey_eq (honest : auth.IsHonest) (h : auth.token.tokenType ≠ .guest) :
    Proof.subjectKey auth.token = .ok auth.home.key.publicKey :=
  Proof.subjectKey_ok_iff.2 (honest.resolve_left h)

/-- What the holder signs for a token, its key verifies. -/
theorem ProvesAt.verifiesText (proves : auth.ProvesAt timestamp)
    (h : auth.token.tokenType ≠ .guest) :
    auth.home.key.publicKey.verifiesText (Proof.challengeHash auth.token.text timestamp)
      (Proof.sign auth timestamp).signature = true :=
  (proves h).verifiesText

end AuthorizationCredentials

/-! ## Verifiers -/

/-- The same credentials at the same time, looked at in any order. -/
structure SecurityRequest.SameAs (a b : SecurityRequest) : Prop where
  timestamp_eq : a.timestamp = b.timestamp
  mem_iff : ∀ c, c ∈ a.credentials ↔ c ∈ b.credentials

namespace SecurityRequest.SameAs

variable {a b c : SecurityRequest}

theorem refl (a : SecurityRequest) : a.SameAs a :=
  ⟨rfl, fun _ => Iff.rfl⟩

theorem trans (hab : a.SameAs b) (hbc : b.SameAs c) : a.SameAs c :=
  ⟨hab.timestamp_eq.trans hbc.timestamp_eq, fun x => (hab.mem_iff x).trans (hbc.mem_iff x)⟩

end SecurityRequest.SameAs

namespace Authenticator

variable {authenticator : Authenticator} {credentials : List AuthorizationCredentials}
  {timestamp now : Int64}

theorem provesPossession_of_isHonest {auth : AuthorizationCredentials} (honest : auth.IsHonest)
    (proves : auth.ProvesAt timestamp) :
    provesPossession timestamp (.ofAuthorization auth (Proof.sign auth timestamp).signature) =
      .ok true := by
  refine provesPossession_iff.2 ⟨auth.token, auth.token.parse_text, ?_⟩
  by_cases hguest : auth.token.tokenType = .guest
  · exact Or.inl hguest
  · exact Or.inr ⟨_, honest.subjectKey_eq hguest, proves.verifiesText hguest⟩

/-- **Requests.** Where every holder proves its token, a request is accepted while it is fresh. -/
theorem verifyRequest_of_isHonest (honest : ∀ auth ∈ credentials, auth.IsHonest)
    (proves : ∀ auth ∈ credentials, auth.ProvesAt timestamp) {request : SecurityRequest}
    (same : request.SameAs (Proof.securityRequest credentials timestamp)) :
    authenticator.verifyRequest request now = .ok (authenticator.isFresh timestamp now) := by
  have htime : request.timestamp = timestamp := same.timestamp_eq
  have hall : ∀ c ∈ request.credentials, provesPossession request.timestamp c = .ok true := by
    intro c hc
    -- equal credentials count once, and each that is left was made by some holder
    obtain ⟨auth, hauth, rfl⟩ := List.mem_map.1 (mem_distinct.1 ((same.mem_iff c).1 hc))
    rw [htime]
    exact provesPossession_of_isHonest (honest auth hauth) (proves auth hauth)
  unfold verifyRequest
  rw [allProve_iff.2 hall, htime]
  cases authenticator.isFresh timestamp now <;> rfl

theorem coversTokens_of_isHonest (honest : ∀ auth ∈ credentials, auth.IsHonest)
    (proves : ∀ auth ∈ credentials, auth.ProvesAt timestamp)
    (named : ∀ auth ∈ credentials, auth.token.tokenType ≠ .guest) :
    coversTokens timestamp (credentials.map (·.token)) (credentials.map (Proof.sign · timestamp)) =
      .ok true := by
  induction credentials with
  | nil => rfl
  | cons auth rest ih =>
    obtain ⟨hhonest, hrest⟩ := List.forall_mem_cons.1 honest
    obtain ⟨hproves, hprovesRest⟩ := List.forall_mem_cons.1 proves
    obtain ⟨hnamed, hnamedRest⟩ := List.forall_mem_cons.1 named
    rw [List.map_cons, List.map_cons, coversTokens, hhonest.subjectKey_eq hnamed,
      ← ih hrest hprovesRest hnamedRest]
    exact if_pos ⟨rfl, hproves.verifiesText hnamed⟩

/-- **Challenges.** Without guests, so is the challenge of all tokens in their order. -/
theorem verifyChallenge_of_isHonest (honest : ∀ auth ∈ credentials, auth.IsHonest)
    (proves : ∀ auth ∈ credentials, auth.ProvesAt timestamp)
    (named : ∀ auth ∈ credentials, auth.token.tokenType ≠ .guest) :
    authenticator.verifyChallenge (credentials.map (·.token))
      (Proof.applicationChallenge credentials timestamp) now =
        .ok (authenticator.isFresh timestamp now) := by
  have hcovers := coversTokens_of_isHonest honest proves named
  unfold verifyChallenge Proof.applicationChallenge
  simp only [List.length_map, ne_eq, not_true, if_false, hcovers]
  cases authenticator.isFresh timestamp now <;> rfl

/-- **Responses.** So is the response of a service under its own key. -/
theorem verifyResponse_serviceResponse {key : Ed25519.SecretKey}
    (signs : key.SignsAcceptably (Proof.timestampHash timestamp)) :
    authenticator.verifyResponse (Proof.serviceResponse key timestamp) key.publicKey now =
      .ok (authenticator.isFresh timestamp now) := by
  rw [verifyResponse, Proof.serviceResponse, ServiceProof.ofText?_text]
  simp only [signs.verifiesText, Bool.true_and, decide_true]

/-- **Honest proofs are accepted exactly while they are fresh.** The tokens may repeat and may be
none; a request may be looked at in any order, as it was made or as it is read from its JSON text. -/
theorem honest_accepted_iff_fresh (authenticator : Authenticator)
    (credentials : List AuthorizationCredentials) (timestamp now : Int64)
    (honest : ∀ auth ∈ credentials, auth.IsHonest)
    (proves : ∀ auth ∈ credentials, auth.ProvesAt timestamp) :
    ∃ b : Bool, (b = true ↔
        (now.toInt - timestamp.toInt).natAbs < min authenticator.freshness.millis Time.greatest) ∧
      (∀ request : SecurityRequest, request.SameAs (Proof.securityRequest credentials timestamp) →
        authenticator.verifyRequest request now = .ok b ∧
        ∃ received, (Json.Draft.readText request.toJson.text).bind
            (SecurityRequest.ofDraft? Json.Draft.deepest) = some received ∧
          ∀ visited : SecurityRequest, visited.SameAs received →
            authenticator.verifyRequest visited now = .ok b) ∧
      ((∀ auth ∈ credentials, auth.token.tokenType ≠ .guest) →
        authenticator.verifyChallenge (credentials.map (·.token))
          (Proof.applicationChallenge credentials timestamp) now = .ok b) ∧
      ∀ key : Ed25519.SecretKey, key.SignsAcceptably (Proof.timestampHash timestamp) →
        authenticator.verifyResponse (Proof.serviceResponse key timestamp) key.publicKey now =
          .ok b := by
  refine ⟨authenticator.isFresh timestamp now, isFresh_iff, fun request same => ?_,
    fun named => verifyChallenge_of_isHonest honest proves named,
    fun key signs => verifyResponse_serviceResponse signs⟩
  refine ⟨verifyRequest_of_isHonest honest proves same, request, request.read_written, ?_⟩
  exact fun visited hvisited => verifyRequest_of_isHonest honest proves (hvisited.trans same)

/-! ## A token proved twice -/

def holderKey : Ed25519.SecretKey := .uniform 7

/-- What the holder has from its AAM. -/
def holder : HomeCredentials where
  homeAam := { id := "p", address := "", certificate := {} }
  username := "u"
  clientId := "c"
  certificate := {}
  key := holderKey

def heldClaims : Claims where
  issuer := "p"
  subject := "s"
  expiration := 0
  issuedAt := none
  tokenId := none
  issuerKey := ""
  subjectKey := some holderKey.publicKey.wire
  tokenType := .home
  attributes := Catalog.empty
  extra := Catalog.empty

/-- A token that says so, signed by nobody. -/
def heldToken : Token :=
  .written ⟨acceptedAlgorithm, none⟩
    (Claims.transportable_of_extra (rfl : heldClaims.extra = Catalog.empty)) []

def held : AuthorizationCredentials := ⟨heldToken, holder.homeAam, holder⟩

/-- Verification takes what the holder signs at this time, for the token and for a service. -/
theorem holderKey_signs :
    holderKey.SignsAcceptably (Proof.challengeHash heldToken.text (-1)) ∧
      holderKey.SignsAcceptably (Proof.timestampHash (-1)) := by
  unfold Ed25519.SecretKey.SignsAcceptably
  decide +kernel

theorem held_isHonest : held.IsHonest :=
  Or.inr ⟨holderKey.publicKey.wire, rfl,
    Ed25519.PublicKey.ofWire_wire (Ed25519.PublicKey.isPoint_of_verifies holderKey_signs.1)⟩

/-- A proof of the same token twice is taken one millisecond before the hour is over, in a request,
in a challenge, and in the response of a service. When it is over, the request is refused. -/
theorem held_token_accepted :
    (∀ auth ∈ [held, held], auth.IsHonest) ∧ (∀ auth ∈ [held, held], auth.ProvesAt (-1)) ∧
      verifyRequest {} (Proof.securityRequest [held, held] (-1)) 3599998 = .ok true ∧
      verifyRequest {} (Proof.securityRequest [held, held] (-1)) 3599999 = .ok false ∧
      verifyChallenge {} [heldToken, heldToken] (Proof.applicationChallenge [held, held] (-1))
        3599998 = .ok true ∧
      verifyResponse {} (Proof.serviceResponse holderKey (-1)) holderKey.publicKey 3599998 =
        .ok true := by
  have honest : ∀ auth ∈ [held, held], auth.IsHonest := by simpa using held_isHonest
  have proves : ∀ auth ∈ [held, held], auth.ProvesAt (-1) := by
    have hproves : held.ProvesAt (-1) := fun _ => holderKey_signs.1
    simpa using hproves
  have named : ∀ auth ∈ [held, held], auth.token.tokenType ≠ .guest := by
    have hnamed : held.token.tokenType ≠ .guest := TokenType.noConfusion
    simpa using hnamed
  obtain ⟨soon, hsoon, hrequest, hchallenge, hresponse⟩ :=
    honest_accepted_iff_fresh {} [held, held] (-1) 3599998 honest proves
  obtain ⟨late, hlate, hrequestLate, -⟩ :=
    honest_accepted_iff_fresh {} [held, held] (-1) 3599999 honest proves
  obtain rfl : soon = true := hsoon.2 (by decide)
  obtain rfl : late = false := Bool.eq_false_iff.2 fun h => absurd (hlate.1 h) (by decide)
  exact ⟨honest, proves, (hrequest _ (.refl _)).1, (hrequestLate _ (.refl _)).1,
    hchallenge named, hresponse holderKey holderKey_signs.2⟩

end Authenticator

end FederatedAccess
