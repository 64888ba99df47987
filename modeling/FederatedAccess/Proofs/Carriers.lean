import FederatedAccess.Proofs.Honest
import Mathlib.Data.List.Forall2

/-!
# Two carriers of one proof

The proof of possession travels in a challenge, next to a list of tokens, or inside the credentials
of a request. One verifier goes through a list by position, the other through a set and reads each
token again, and both stop at the first failure, which may be a refusal or an error. What comes
first therefore shows in a negative outcome. The positive one is the same for both carriers and for
every order (`carriers_agree`): the time is fresh, and every token is proved.
-/

namespace FederatedAccess

/-! ## Challenges -/

/-- The signed hash is that of a token at a time, and the signature holds under the key that the
token names. -/
def SignedHash.Proves (timestamp : Int64) (token : Token) (signed : SignedHash) : Prop :=
  ∃ key, Proof.subjectKey token = .ok key ∧
    Proof.challengeHash token.text timestamp = signed.hash ∧
    key.verifiesText signed.hash signed.signature = true

namespace Authenticator

variable {authenticator : Authenticator} {timestamp now : Int64}

/-- Tokens and signed hashes are taken in pairs, and all of them must fit. -/
theorem coversTokens_iff {tokens : List Token} {signedHashes : List SignedHash}
    (hlength : tokens.length = signedHashes.length) :
    coversTokens timestamp tokens signedHashes = .ok true ↔
      List.Forall₂ (SignedHash.Proves timestamp) tokens signedHashes := by
  induction tokens generalizing signedHashes with
  | nil =>
    obtain rfl := List.length_eq_zero_iff.1 hlength.symm
    exact iff_of_true rfl .nil
  | cons token tokens ih =>
    obtain ⟨signed, rest, rfl⟩ := List.exists_cons_of_length_eq_add_one hlength.symm
    rw [coversTokens, except_bind_ok_iff, List.forall₂_cons, ← ih (Nat.succ.inj hlength)]
    constructor
    · rintro ⟨key, hkey, h⟩
      by_cases hfits : Proof.challengeHash token.text timestamp = signed.hash ∧
          key.verifiesText signed.hash signed.signature = true
      · rw [if_pos hfits] at h
        exact ⟨⟨key, hkey, hfits⟩, h⟩
      · rw [if_neg hfits] at h
        cases h
    · rintro ⟨⟨key, hkey, hfits⟩, h⟩
      exact ⟨key, hkey, by rwa [if_pos hfits]⟩

/-- **Challenges.** A challenge is accepted exactly when it is fresh, has one signed hash for each
token, and every signed hash proves the token at its place. -/
theorem verifyChallenge_iff {tokens : List Token} {challenge : ApplicationChallenge} :
    authenticator.verifyChallenge tokens challenge now = .ok true ↔
      authenticator.isFresh challenge.timestamp now = true ∧
        List.Forall₂ (SignedHash.Proves challenge.timestamp) tokens challenge.signedHashes := by
  unfold verifyChallenge
  split
  · rename_i hlength
    refine iff_of_false nofun ?_
    rintro ⟨-, hall⟩
    exact hlength hall.length_eq
  · rename_i hlength
    rw [not_not] at hlength
    rw [← coversTokens_iff hlength]
    cases authenticator.isFresh challenge.timestamp now with
    | true => simp
    | false => simp

end Authenticator

/-! ## Presented tokens -/

/-- A token of someone, presented with a text as the proof of its possession and with any
certificates. -/
structure Presentation where
  token : Token
  signature : String
  certificates : CredentialCertificates := {}
  /-- Guests have nothing to prove. -/
  named : token.tokenType ≠ .guest

namespace Presentation

def credentials (p : Presentation) : SecurityCredentials where
  token := p.token.text
  challenge := p.signature
  clientCertificate := p.certificates.client
  signingCertificate := p.certificates.signing
  foreignCertificate := p.certificates.foreign

def signedHash (timestamp : Int64) (p : Presentation) : SignedHash :=
  ⟨Sha2.hexOfText (p.token.text ++ Numeral.ofInt timestamp.toInt), p.signature⟩

/-- The token names a key that can be read, and the text is a signature of its hash under this
key. -/
def IsProvedAt (timestamp : Int64) (p : Presentation) : Prop :=
  ∃ wire key, p.token.claims.subjectKey = some wire ∧ Ed25519.PublicKey.ofWire wire = .ok key ∧
    key.verifiesText (Sha2.hexOfText (p.token.text ++ Numeral.ofInt timestamp.toInt))
      p.signature = true

variable {timestamp : Int64} {p : Presentation}

theorem isProvedAt_iff :
    p.IsProvedAt timestamp ↔ ∃ key, Proof.subjectKey p.token = .ok key ∧
      key.verifiesText (Proof.challengeHash p.token.text timestamp) p.signature = true := by
  constructor
  · rintro ⟨wire, key, hwire, hkey, hsigned⟩
    exact ⟨key, Proof.subjectKey_ok_iff.2 ⟨wire, hwire, hkey⟩, hsigned⟩
  · rintro ⟨key, hkey, hsigned⟩
    obtain ⟨wire, hwire, hkey⟩ := Proof.subjectKey_ok_iff.1 hkey
    exact ⟨wire, key, hwire, hkey, hsigned⟩

theorem proves_signedHash_iff :
    SignedHash.Proves timestamp p.token (p.signedHash timestamp) ↔ p.IsProvedAt timestamp := by
  rw [isProvedAt_iff]
  constructor
  · rintro ⟨key, hkey, -, hsigned⟩
    exact ⟨key, hkey, hsigned⟩
  · rintro ⟨key, hkey, hsigned⟩
    exact ⟨key, hkey, rfl, hsigned⟩

theorem provesPossession_credentials_iff :
    Authenticator.provesPossession timestamp p.credentials = .ok true ↔
      p.IsProvedAt timestamp := by
  rw [isProvedAt_iff, Authenticator.provesPossession_iff]
  constructor
  · rintro ⟨token, hparse, hproved⟩
    obtain rfl : p.token = token := Except.ok.inj (p.token.parse_text.symm.trans hparse)
    exact hproved.resolve_left p.named
  · intro hproved
    exact ⟨p.token, p.token.parse_text, Or.inr hproved⟩

end Presentation

namespace Authenticator

variable {authenticator : Authenticator} {presented : List Presentation} {timestamp now : Int64}

theorem verifyChallenge_presented_iff :
    authenticator.verifyChallenge (presented.map (·.token))
        ⟨presented.map (·.signedHash timestamp), timestamp⟩ now = .ok true ↔
      authenticator.isFresh timestamp now = true ∧ ∀ p ∈ presented, p.IsProvedAt timestamp := by
  rw [verifyChallenge_iff, List.forall₂_map_left_iff, List.forall₂_map_right_iff,
    List.forall₂_same]
  simp only [Presentation.proves_signedHash_iff]

/-- The credentials of a request are those presented, whatever their order and however often. -/
theorem verifyRequest_presented_iff {request : SecurityRequest}
    (same : request.SameAs (.ofList (presented.map (·.credentials)) timestamp)) :
    authenticator.verifyRequest request now = .ok true ↔
      authenticator.isFresh timestamp now = true ∧ ∀ p ∈ presented, p.IsProvedAt timestamp := by
  have htime : request.timestamp = timestamp := same.timestamp_eq
  have hmem : ∀ c, c ∈ request.credentials ↔ ∃ p ∈ presented, p.credentials = c := by
    intro c
    rw [same.mem_iff]
    exact mem_distinct.trans List.mem_map
  rw [verifyRequest_iff, htime]
  refine and_congr_right fun _ => ?_
  constructor
  · intro h p hp
    exact Presentation.provesPossession_credentials_iff.1 (h _ ((hmem _).2 ⟨p, hp, rfl⟩))
  · intro h c hc
    obtain ⟨p, hp, rfl⟩ := (hmem c).1 hc
    exact Presentation.provesPossession_credentials_iff.2 (h p hp)

/-- **Both carriers agree, and accept all or nothing.** A challenge for a list of tokens and a
request that presents them with the same signatures are both accepted or neither is, in whatever
order the request is looked at: they are when the time lies within the window and every token names
a key under which the signature of its hash holds. No challenge is accepted with fewer or more
signed hashes than tokens, or with another hash than that of the token at its place. -/
theorem carriers_agree (authenticator : Authenticator) (presented : List Presentation)
    (timestamp now : Int64) (request : SecurityRequest)
    (same : request.SameAs (.ofList (presented.map (·.credentials)) timestamp)) :
    (authenticator.verifyChallenge (presented.map (·.token))
        ⟨presented.map (·.signedHash timestamp), timestamp⟩ now = .ok true ↔
      authenticator.verifyRequest request now = .ok true) ∧
    (authenticator.verifyRequest request now = .ok true ↔
      (now.toInt - timestamp.toInt).natAbs < min authenticator.freshness.millis Time.greatest ∧
        ∀ p ∈ presented, p.IsProvedAt timestamp) ∧
    ∀ (tokens : List Token) (challenge : ApplicationChallenge),
      tokens.length ≠ challenge.signedHashes.length ∨
        (∃ i, ∃ (h : i < tokens.length) (h' : i < challenge.signedHashes.length),
          challenge.signedHashes[i].hash ≠
            Sha2.hexOfText (tokens[i].text ++ Numeral.ofInt challenge.timestamp.toInt)) →
        authenticator.verifyChallenge tokens challenge now ≠ .ok true := by
  refine ⟨?_, ?_, ?_⟩
  · rw [verifyChallenge_presented_iff, verifyRequest_presented_iff same]
  · rw [verifyRequest_presented_iff same, isFresh_iff]
  · intro tokens challenge hmismatch haccepted
    obtain ⟨-, hall⟩ := verifyChallenge_iff.1 haccepted
    rcases hmismatch with hlength | ⟨i, h, h', hhash⟩
    · exact hlength hall.length_eq
    · obtain ⟨key, -, hsame, -⟩ := hall.get h h'
      exact hhash hsame.symm

/-! ## The held token with two certificates -/

/-- The held token, proved by its holder one millisecond before the epoch. -/
def heldPresentation (certificates : CredentialCertificates) : Presentation where
  token := heldToken
  signature := (Proof.sign held (-1)).signature
  certificates := certificates
  named := TokenType.noConfusion

theorem heldPresentation_isProved (certificates : CredentialCertificates) :
    (heldPresentation certificates).IsProvedAt (-1) := by
  rcases held_isHonest with hguest | ⟨wire, hwire, hkey⟩
  · cases hguest
  · exact ⟨wire, holderKey.publicKey, hwire, hkey, holderKey_signs.1.verifiesText⟩

/-- The held token twice, the second time with a certificate. -/
def heldTwice : List Presentation :=
  [heldPresentation {}, heldPresentation { client := ⟨"c"⟩ }]

/-- The request that presents it so, with the credentials in the other order. -/
def heldTwiceBackwards : SecurityRequest :=
  .ofList (heldTwice.reverse.map (·.credentials)) (-1)

/-- Both carriers of the proofs are accepted until the hour is over. A challenge without signed
hashes proves nothing. -/
theorem held_twice_carried :
    heldTwiceBackwards.SameAs (.ofList (heldTwice.map (·.credentials)) (-1)) ∧
      verifyChallenge {} (heldTwice.map (·.token)) ⟨heldTwice.map (·.signedHash (-1)), -1⟩
        3599998 = .ok true ∧
      verifyRequest {} heldTwiceBackwards 3599998 = .ok true ∧
      verifyRequest {} heldTwiceBackwards 3599999 ≠ .ok true ∧
      verifyChallenge {} [heldToken] ⟨[], -1⟩ 3599998 ≠ .ok true := by
  have same : heldTwiceBackwards.SameAs (.ofList (heldTwice.map (·.credentials)) (-1)) := by
    refine ⟨rfl, fun c => mem_distinct.trans (Iff.trans ?_ mem_distinct.symm)⟩
    rw [List.map_reverse, List.mem_reverse]
  have proved : ∀ p ∈ heldTwice, p.IsProvedAt (-1) := by
    intro p hp
    obtain ⟨certificates, rfl⟩ : ∃ certificates, heldPresentation certificates = p := by
      rcases List.mem_pair.1 hp with rfl | rfl
      · exact ⟨_, rfl⟩
      · exact ⟨_, rfl⟩
    exact heldPresentation_isProved certificates
  obtain ⟨hagree, hsoon, hmismatch⟩ :=
    carriers_agree {} heldTwice (-1) 3599998 heldTwiceBackwards same
  obtain ⟨-, hlate, -⟩ := carriers_agree {} heldTwice (-1) 3599999 heldTwiceBackwards same
  have haccepted := hsoon.2 ⟨by decide, proved⟩
  refine ⟨same, hagree.2 haccepted, haccepted, ?_, ?_⟩
  · intro h
    exact absurd (hlate.1 h).1 (by decide)
  · exact hmismatch [heldToken] ⟨[], -1⟩ (Or.inl (by decide))

end Authenticator

end FederatedAccess
