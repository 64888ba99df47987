import FederatedAccess.Proofs.Component.RequestStatus
import FederatedAccess.Proofs.Key.WireForm
import FederatedAccess.Proofs.Token.Compact

/-!
# The trust chain of offline validation

What is checked of a request without asking an AAM is spread over three layers: the holder's proof
and its key, the signature of the token and its end, and the client certificate. The chain
(`TrustChain`) says for one token what all of them together demand. A request is valid exactly when
it is fresh, the local AAM says which AAMs there are, and every token has its chain.

Each layer exempts some tokens: guests from the proof and from the certificate, tokens without a key
from the certificate alone. The second exemption is never used, because a token without a key that
is not a guest's has already failed the first layer (`holder_iff`).
-/

namespace FederatedAccess

/-! ## The chain of one token -/

/-- The key that a token has to be signed with: that of the listed AAM of its issuer, or, for an
issuer that is not listed and when such keys are trusted, the one in the token. -/
def Token.IssuerKey (aams : Dictionary Aam) (trustEmbedded : Bool) (token : Token)
    (key : Ed25519.PublicKey) : Prop :=
  (∃ aam, aams.get? token.issuer = some aam ∧ aam.certificate.publicKey = .ok key) ∨
    (aams.get? token.issuer = none ∧ trustEmbedded = true ∧
      Ed25519.PublicKey.ofWire token.claims.issuerKey = .ok key)

/-- The caller holds the key that the token names, and the client certificate is for this key.
Guests have no key. -/
def Token.HeldBy (token : Token) (credentials : SecurityCredentials) (timestamp : Int64) : Prop :=
  token.tokenType = .guest ∨
    ∃ wire key, token.claims.subjectKey = some wire ∧ Ed25519.PublicKey.ofWire wire = .ok key ∧
      key.verifiesText (Sha2.hexOfText (token.text ++ Numeral.ofInt timestamp.toInt))
        credentials.challenge = true ∧
      credentials.clientCertificate.isEmpty = false ∧
      credentials.clientCertificate.publicKey = .ok key

/-- Everything that makes presented credentials trustworthy at a time, in seconds. -/
structure TrustChain (configuration : Configuration) (aams : Dictionary Aam) (timestamp now : Int64)
    (credentials : SecurityCredentials) (token : Token) : Prop where
  /-- The presented text is the token. -/
  parsed : Token.parse credentials.token = .ok token
  /-- It belongs to the caller. -/
  held : token.HeldBy credentials timestamp
  /-- Its header names the accepted algorithm. -/
  algorithm : token.algorithm = "EdDSA"
  /-- Its 64 octets of signature hold for its header and body under the issuer's key. -/
  signed : ∃ key input signature,
    token.IssuerKey aams configuration.trustEmbeddedKeys key ∧
      token.SignedText input signature ∧ signature.length = 64 ∧
      key.verifiesStrictly (Utf8.encode input) signature = true
  /-- Its end, put off by the leeway, has not come. -/
  inTime : now.toInt <
    min (token.claims.expiration.toInt +
      min configuration.validator.leeway.seconds.toNat Time.greatest) Time.greatest

/-! ## Layers -/

namespace OfflineValidation

variable {validator : Validator} {aams : Dictionary Aam} {trustEmbedded : Bool} {token : Token}
  {credentials : SecurityCredentials} {timestamp now : Int64}

/-- **Possession and certificate together.** The proof of possession and the check of the client
certificate pass exactly the tokens that are held by the caller. -/
theorem holder_iff :
    ((token.tokenType = .guest ∨ ∃ key, Proof.subjectKey token = .ok key ∧
        key.verifiesText (Proof.challengeHash token.text timestamp) credentials.challenge = true) ∧
      isBound token credentials = true) ↔ token.HeldBy credentials timestamp := by
  by_cases hguest : token.tokenType = .guest
  · simp [hguest, isBound, Token.HeldBy]
  · simp only [hguest, false_or, Token.HeldBy, Proof.subjectKey_ok_iff]
    constructor
    · rintro ⟨⟨key, ⟨wire, hwire, hkey⟩, hproof⟩, hbound⟩
      obtain ⟨hempty, hcert⟩ := (isBound_iff hguest hwire hkey).1 hbound
      exact ⟨wire, key, hwire, hkey, hproof, hempty, hcert⟩
    · rintro ⟨wire, key, hwire, hkey, hproof, hempty, hcert⟩
      have hbound := (isBound_iff hguest hwire hkey).2 ⟨hempty, hcert⟩
      exact ⟨⟨key, ⟨wire, hwire, hkey⟩, hproof⟩, hbound⟩

/-- The key that a token has to be signed with is the one that is looked for. -/
theorem issuerKey_iff {key : Ed25519.PublicKey} :
    token.IssuerKey aams trustEmbedded key ↔
      trustedKey aams trustEmbedded token = .known key ∨
        (trustedKey aams trustEmbedded token = .embedded ∧
          Ed25519.PublicKey.ofWire token.claims.issuerKey = .ok key) := by
  unfold Token.IssuerKey trustedKey
  cases haam : aams.get? token.issuer with
  | some aam => cases hcert : aam.certificate.publicKey <;> simp [hcert]
  | none => cases trustEmbedded <;> simp

/-- A check after the status was found lets only a valid status pass that it does not refuse. -/
theorem guarded_valid_iff {found : Except ValidationError ValidationStatus} {bound : Bool} :
    (do
      let status ← found
      if status.isValid && !bound then return ValidationStatus.invalidTrustChain
      return status) = .ok .valid ↔ found = .ok .valid ∧ bound = true := by
  rw [except_bind_ok_iff]
  constructor
  · rintro ⟨status, hstatus, h⟩
    by_cases hrefused : (status.isValid && !bound) = true
    · simp [hrefused, except_pure_ok_iff] at h
    · simp only [hrefused] at h
      obtain rfl : status = .valid := except_pure_ok_iff.1 h
      exact ⟨hstatus, by simpa [ValidationStatus.isValid] using hrefused⟩
  · rintro ⟨hstatus, hbound⟩
    exact ⟨.valid, hstatus, by simp [hbound, except_pure_ok_iff]⟩

/-- **Offline status.** A token is valid exactly under the accepted algorithm, with a signature
under the issuer's key, before its deadline, and with a certificate that fits. -/
theorem offlineStatus_valid_iff :
    validator.offlineStatus aams trustEmbedded token credentials now = .ok .valid ↔
      token.algorithm = acceptedAlgorithm ∧
      (∃ key, token.IssuerKey aams trustEmbedded key ∧
        Validator.isSignedBy token.decoded key = true) ∧
      ¬ validator.deadline token.claims ≤ now ∧ isBound token credentials = true := by
  simp only [Validator.offlineStatus, issuerKey_iff, Validator.validateAt_text]
  cases trustedKey aams trustEmbedded token with
  | known key =>
    refine guarded_valid_iff.trans ?_
    rw [Validator.check_valid_iff]
    simp [Validator.issuerKey, Token.algorithm, Token.claims, and_assoc]
  | embedded =>
    refine guarded_valid_iff.trans ?_
    rw [Validator.check_valid_iff]
    simp [Validator.issuerKey, mapError_ok_iff, Token.algorithm, Token.claims, and_assoc]
  | untrusted =>
    refine guarded_valid_iff.trans ?_
    simp [except_pure_ok_iff]

end OfflineValidation

/-! ## The chain and the checks -/

/-- **One token.** Its chain is what the proof of possession and the offline status demand. -/
theorem trustChain_iff {configuration : Configuration} {aams : Dictionary Aam}
    {timestamp now : Int64} {credentials : SecurityCredentials} :
    (∃ token, TrustChain configuration aams timestamp now credentials token) ↔
      Authenticator.provesPossession timestamp credentials = .ok true ∧
      ∃ token, Token.parse credentials.token = .ok token ∧
        configuration.validator.offlineStatus aams configuration.trustEmbeddedKeys token
          credentials now = .ok .valid := by
  rw [Authenticator.provesPossession_iff]
  constructor
  · rintro ⟨token, chain⟩
    obtain ⟨hproof, hbound⟩ := OfflineValidation.holder_iff.2 chain.held
    obtain ⟨key, input, signature, hkey, htext, -, hsigned⟩ := chain.signed
    obtain ⟨rfl, rfl⟩ := Token.signedText_iff.1 htext
    have hlate := Validator.not_deadline_le_iff.2 chain.inTime
    refine ⟨⟨token, chain.parsed, hproof⟩, token, chain.parsed, ?_⟩
    exact OfflineValidation.offlineStatus_valid_iff.2
      ⟨chain.algorithm, ⟨key, hkey, hsigned⟩, hlate, hbound⟩
  · rintro ⟨⟨token, hparse, hproof⟩, token', hparse', hstatus⟩
    obtain rfl : token = token' := Except.ok.inj (hparse.symm.trans hparse')
    obtain ⟨halg, ⟨key, hkey, hsigned⟩, hlate, hbound⟩ :=
      OfflineValidation.offlineStatus_valid_iff.1 hstatus
    refine ⟨token, hparse, OfflineValidation.holder_iff.1 ⟨hproof, hbound⟩, halg, ?_,
      Validator.not_deadline_le_iff.1 hlate⟩
    exact ⟨key, token.decoded.signingInput, token.decoded.signature, hkey,
      Token.signedText_iff.2 ⟨rfl, rfl⟩, Ed25519.PublicKey.length_of_verifiesStrictly hsigned,
      hsigned⟩

namespace Component

open Operation

variable {component : Component} {around : Surroundings} {past : History} {aams : Dictionary Aam}

/-- Offline, the clocks are read once for each token, and no AAM is asked. -/
theorem tokenStatus_offline (hmode : component.configuration.validationMode = .offline)
    (credentials : SecurityCredentials) :
    (component.tokenStatus aams credentials).run around past =
      match Token.parse credentials.token with
      | .ok token =>
        ((component.configuration.validator.offlineStatus aams
          component.configuration.trustEmbeddedKeys token credentials
          (around.clock past).seconds).mapError .validation, past.read)
      | .error e => (.error (.malformedToken e), past) := by
  rw [tokenStatus, run_bind, run_ofExcept, hmode]
  cases Token.parse credentials.token with
  | ok token => rfl
  | error e => rfl

theorem tokenStatus_offline_valid_iff (hmode : component.configuration.validationMode = .offline)
    (credentials : SecurityCredentials) :
    ((component.tokenStatus aams credentials).run around past).1 = .ok .valid ↔
      ∃ token, Token.parse credentials.token = .ok token ∧
        component.configuration.validator.offlineStatus aams
          component.configuration.trustEmbeddedKeys token credentials
          (around.clock past).seconds = .ok .valid := by
  rw [tokenStatus_offline hmode]
  cases Token.parse credentials.token with
  | ok token => simp [mapError_ok_iff]
  | error e => simp

/-- After a valid token the clocks have been read once more, and nothing else has happened. -/
theorem tokenStatus_offline_past (hmode : component.configuration.validationMode = .offline)
    {credentials : SecurityCredentials}
    (h : ((component.tokenStatus aams credentials).run around past).1 = .ok .valid) :
    ((component.tokenStatus aams credentials).run around past).2 = past.read := by
  obtain ⟨token, hparse, -⟩ := (tokenStatus_offline_valid_iff hmode credentials).1 h
  rw [tokenStatus_offline hmode, hparse]

/-- A history with more readings of the clocks. -/
def readTimes (past : History) (times : Nat) : History :=
  { past with readings := past.readings + times }

@[simp] theorem readTimes_zero : readTimes past 0 = past := rfl

theorem readTimes_read (times : Nat) : readTimes past.read times = readTimes past (times + 1) := by
  simp only [readTimes, History.read, History.mk.injEq, true_and]
  omega

/-- Offline, each token of a list is looked at when all before it have been found valid. -/
theorem firstStatus_offline_valid_iff (hmode : component.configuration.validationMode = .offline)
    (credentials : List SecurityCredentials) :
    ((component.firstStatus aams credentials).run around past).1 = .ok .valid ↔
      ∀ i (h : i < credentials.length),
        ((component.tokenStatus aams credentials[i]).run around (readTimes past i)).1 =
          .ok .valid := by
  induction credentials generalizing past with
  | nil => simp [firstStatus]
  | cons c rest ih =>
    rw [firstStatus_cons_valid_iff]
    constructor
    · rintro ⟨hc, hrest⟩ i hi
      rw [tokenStatus_offline_past hmode hc, ih] at hrest
      cases i with
      | zero => rwa [readTimes_zero, List.getElem_cons_zero]
      | succ i =>
        rw [← readTimes_read, List.getElem_cons_succ]
        exact hrest i (Nat.lt_of_succ_lt_succ hi)
    · intro h
      have hc := h 0 (Nat.zero_lt_succ _)
      rw [readTimes_zero, List.getElem_cons_zero] at hc
      refine ⟨hc, ?_⟩
      rw [tokenStatus_offline_past hmode hc, ih]
      intro i hi
      have hnext := h (i + 1) (Nat.succ_lt_succ hi)
      rwa [← readTimes_read, List.getElem_cons_succ] at hnext

/-- The history when the token at a place is looked at: the clocks have been read for the proofs and
for each token before it, and the local AAM has told which AAMs there are. -/
def pastAtToken (component : Component) (past : History) (place : Nat) : History :=
  readTimes (past.read.called (.availableAams component.configuration.localAddress)) place

/-- Offline, the local AAM is asked which AAMs there are, whatever the other settings say. -/
theorem knownAams_offline (hmode : component.configuration.validationMode = .offline) :
    component.knownAams = Exchange.ask (.availableAams component.configuration.localAddress) := by
  simp [knownAams, hmode, Handler.availableAamsVia, localAam]

/-- **Offline acceptance is the full trust chain.** A request is valid exactly when its time lies
within the window of freshness, the local AAM tells which AAMs there are, and each of its
credentials has a trust chain. Each token is held against the time at which it is looked at. -/
theorem requestStatus_offline_valid_iff (component : Component)
    (hmode : component.configuration.validationMode = .offline) (request : SecurityRequest)
    (around : Surroundings) (past : History) :
    ((component.requestStatus request).run around past).1 = .ok .valid ↔
      ((around.clock past).millis.toInt - request.timestamp.toInt).natAbs <
          min component.configuration.authenticator.freshness.millis Time.greatest ∧
      ∃ aams, around.answer past.calls (.availableAams component.configuration.localAddress) =
          .ok aams ∧
        ∀ i (h : i < request.credentials.length), ∃ token,
          TrustChain component.configuration aams request.timestamp
            (around.clock (component.pastAtToken past i)).seconds request.credentials[i] token := by
  rw [requestStatus_valid_iff, Authenticator.verifyRequest_iff, Authenticator.isFresh_iff,
    knownAams_offline hmode, Exchange.run_ask]
  simp only [mapError_ok_iff, firstStatus_offline_valid_iff hmode,
    tokenStatus_offline_valid_iff hmode, trustChain_iff]
  constructor
  · rintro ⟨⟨hfresh, hproved⟩, aams, haams, hvalid⟩
    refine ⟨hfresh, aams, haams, fun i hi => ⟨?_, hvalid i hi⟩⟩
    exact hproved _ (List.getElem_mem hi)
  · rintro ⟨hfresh, aams, haams, hchain⟩
    refine ⟨⟨hfresh, ?_⟩, aams, haams, fun i hi => (hchain i hi).2⟩
    intro c hc
    obtain ⟨i, hi, rfl⟩ := List.getElem_of_mem hc
    exact (hchain i hi).1

/-! ## An accepted guest -/

/-- The compact text of a guest token that the AAM below has signed. -/
def guestText : String :=
  "eyJhbGciOiJFZERTQSJ9." ++
    "eyJleHAiOjEwMCwiaXBrIjoiIiwiaXNzIjoicCIsInN1YiI6ImciLCJ0dHlwIjoiR1VFU1QifQ." ++
    "9pOMjq-LUNKH-lOnhxOX3UrVjGsS3-QSFYEkpoTRC50ApuBiNbRQrxBxVYzh51WZl7qrBB68kpJ8-rIftFe2Bw"

def issuerCertificate : Certificate :=
  ⟨"-----BEGIN PUBLIC KEY-----\n" ++
    "MCowBQYDK2VwAyEAftVhMHpLcGbr75RMp2sSqEYNkhPtoPV9IaYyX9blWmQ=\n" ++
    "-----END PUBLIC KEY-----\n"⟩

/-- The AAMs that there are: one by the name of `p`. -/
def listedAams : Dictionary Aam :=
  Dictionary.put Catalog.empty "p" { id := "p", address := "", certificate := issuerCertificate }

def offlineComponent : Component where
  handler := ⟨"https://core"⟩
  configuration := { componentId := "door@platform", validationMode := .offline }
  named := by decide

/-- The local AAM lists the AAMs and answers nothing else; the clocks show the fifth second. -/
def offlineAround : Surroundings where
  answer _ call :=
    match call with
    | .availableAams _ => .ok listedAams
    | _ => .error (.notFound "")
  clock _ := ⟨5, 5000⟩
  freshKey _ := .uniform 9
  freshTokenId _ := ""

/-- Whether a text is a guest token of `p` that lasts until the hundredth second and is signed under
the key of a certificate. -/
def isSignedGuest (text : String) (certificate : Certificate) : Bool :=
  match Token.parse text, certificate.publicKey with
  | .ok token, .ok key =>
    token.tokenType = .guest && token.issuer = "p" && token.algorithm = acceptedAlgorithm &&
      token.claims.expiration = 100 && Validator.isSignedBy token.decoded key
  | _, _ => false

theorem exists_signed_guest {text : String} {certificate : Certificate}
    (h : isSignedGuest text certificate = true) :
    ∃ token key, Token.parse text = .ok token ∧ certificate.publicKey = .ok key ∧
      token.tokenType = .guest ∧ token.issuer = "p" ∧ token.algorithm = acceptedAlgorithm ∧
      token.claims.expiration = 100 ∧ Validator.isSignedBy token.decoded key = true := by
  unfold isSignedGuest at h
  cases hparse : Token.parse text with
  | error e =>
    rw [hparse] at h
    cases h
  | ok token =>
    cases hkey : certificate.publicKey with
    | error e =>
      rw [hparse, hkey] at h
      cases h
    | ok key =>
      rw [hparse, hkey] at h
      simp only [Bool.and_eq_true, decide_eq_true_eq] at h
      obtain ⟨⟨⟨⟨hguest, hissuer⟩, halg⟩, hexp⟩, hsigned⟩ := h
      exact ⟨token, key, rfl, rfl, hguest, hissuer, halg, hexp, hsigned⟩

theorem guestText_isSignedGuest : isSignedGuest guestText issuerCertificate = true := by
  decide +kernel

/-- The guest has a trust chain. -/
theorem exists_guest_trustChain :
    ∃ token, TrustChain offlineComponent.configuration listedAams 5000 5
      (.ofToken guestText) token := by
  obtain ⟨token, key, hparse, hkey, hguest, hissuer, halg, hexp, hsigned⟩ :=
    exists_signed_guest guestText_isSignedGuest
  have haam : listedAams.get? token.issuer =
      some { id := "p", address := "", certificate := issuerCertificate } := by
    rw [hissuer]
    rfl
  refine ⟨token, hparse, Or.inl hguest, halg, ?_, ?_⟩
  · exact ⟨key, token.decoded.signingInput, token.decoded.signature,
      Or.inl ⟨_, haam, hkey⟩, Token.signedText_iff.2 ⟨rfl, rfl⟩,
      Ed25519.PublicKey.length_of_verifiesStrictly hsigned, hsigned⟩
  · rw [hexp]
    decide

/-- Offline, the guest is let in. -/
theorem guest_accepted_offline :
    offlineComponent.configuration.validationMode = .offline ∧
    ((offlineComponent.requestStatus (.ofList [.ofToken guestText] 5000)).run offlineAround {}).1 =
      .ok .valid := by
  have hmode : offlineComponent.configuration.validationMode = .offline := rfl
  refine ⟨hmode, (requestStatus_offline_valid_iff offlineComponent hmode _ offlineAround {}).2 ?_⟩
  refine ⟨by decide, listedAams, rfl, fun i hi => ?_⟩
  have hfirst : i = 0 := Nat.lt_one_iff.1 hi
  subst hfirst
  exact exists_guest_trustChain

end Component

end FederatedAccess
