import FederatedAccess.Component.OfflineValidation
import FederatedAccess.Proofs.Key.Certificate
import FederatedAccess.Proofs.Token.Issuing

/-!
# The one wire form of a key

A key may be read from a claim or from a certificate, and trust rests on comparing keys that came
these two ways. The comparison is sound because each way is canonical: a text that is read as a key
is the wire form of this key, up to blank characters around it (`ofWire_ok_iff`), and the
certificate of a key holds no other. Octets are never reduced, so two keys with one point but
different octets stay apart.
-/

namespace FederatedAccess

namespace Ed25519.PublicKey

variable {key : PublicKey} {text : String}

/-- **Wire forms.** A key is read from its wire form only. -/
theorem ofWire_ok_iff :
    ofWire text = .ok key ↔ Text.trim text = key.wire ∧ (decompress key.octets).isSome = true := by
  constructor
  · intro h
    unfold ofWire at h
    split at h
    · cases h
    · rename_i octets hoctets
      split at h
      · cases h
      · rename_i found hfound
        cases h
        obtain ⟨rfl, hpoint⟩ := ofDocument?_eq_some_iff.1 hfound
        exact ⟨Base64.decode?_eq_some_iff.1 hoctets, hpoint⟩
  · rintro ⟨htrim, hpoint⟩
    rw [ofWire, htrim, wire, Base64.decode?_encode]
    simp only [ofDocument?_document hpoint]

theorem wire_injective : Function.Injective wire := by
  intro key other h
  have hread : Base64.decode? key.wire = Base64.decode? other.wire := by rw [h]
  rw [wire, wire, Base64.decode?_encode, Base64.decode?_encode] at hread
  exact document_injective (Option.some.inj hread)

/-- Some claim or some certificate is read as the key. -/
def IsRead (key : PublicKey) : Prop :=
  (∃ text, ofWire text = .ok key) ∨ ∃ certificate : Certificate, certificate.publicKey = .ok key

/-- Whatever a key is read from, its octets are a point. -/
theorem IsRead.isPoint (h : key.IsRead) : (decompress key.octets).isSome = true := by
  rcases h with ⟨text, htext⟩ | ⟨certificate, hcertificate⟩
  · exact (ofWire_ok_iff.1 htext).2
  · unfold Certificate.publicKey at hcertificate
    split at hcertificate
    · cases hcertificate
    · split at hcertificate
      · rename_i found hfound
        cases hcertificate
        obtain ⟨octets, -, hoctets⟩ := Option.bind_eq_some_iff.1 hfound
        exact (ofDocument?_eq_some_iff.1 hoctets).2
      · cases hcertificate

end Ed25519.PublicKey

/-! ## Certificates against claims -/

namespace OfflineValidation

variable {token : Token} {credentials : SecurityCredentials} {text : String}
  {key : Ed25519.PublicKey}

/-- A token that names a key and is no guest's is bound to the certificates that hold this key. -/
theorem isBound_iff (named : token.tokenType ≠ .guest)
    (hsubject : token.claims.subjectKey = some text)
    (hkey : Ed25519.PublicKey.ofWire text = .ok key) :
    isBound token credentials = true ↔
      credentials.clientCertificate.isEmpty = false ∧
        credentials.clientCertificate.publicKey = .ok key := by
  simp only [isBound, if_neg named, hsubject, hkey]
  by_cases hempty : credentials.clientCertificate.isEmpty = true
  · simp [hempty]
  · cases credentials.clientCertificate.publicKey with
    | error e => simp [hempty]
    | ok certified => simp [hempty, eq_comm]

end OfflineValidation

namespace Ed25519.PublicKey

/-- **One wire form.** A key that can be read at all is read from its wire form and from its
certificate. Conversely every text that is read as a key is the key's wire form with blank
characters around it, so that two such texts stand for one key exactly when they are equal without
them. A token that names a key by such a text is bound to the certificate of this key and to no
other key's. -/
theorem one_wire_form :
    (∀ key : PublicKey, key.IsRead →
      ofWire key.wire = .ok key ∧ (Certificate.ofPublicKey key).isEmpty = false ∧
        (Certificate.ofPublicKey key).publicKey = .ok key) ∧
    (∀ text key, ofWire text = .ok key → key.wire = Text.trim text) ∧
    (∀ text text' key key', ofWire text = .ok key → ofWire text' = .ok key' →
      (key = key' ↔ Text.trim text = Text.trim text')) ∧
    ∀ (token : Token) (credentials : SecurityCredentials) (text : String) (key other : PublicKey),
      token.tokenType ≠ .guest → token.claims.subjectKey = some text → ofWire text = .ok key →
        (OfflineValidation.isBound token
          { credentials with clientCertificate := .ofPublicKey other } = true ↔ other = key) := by
  refine ⟨?_, ?_, ?_, ?_⟩
  · intro key hread
    have hpoint := hread.isPoint
    exact ⟨ofWire_wire hpoint, Certificate.isEmpty_ofPublicKey key,
      Certificate.publicKey_ofPublicKey_iff.2 ⟨rfl, hpoint⟩⟩
  · intro text key htext
    exact (ofWire_ok_iff.1 htext).1.symm
  · intro text text' key key' htext htext'
    rw [(ofWire_ok_iff.1 htext).1, (ofWire_ok_iff.1 htext').1]
    exact wire_injective.eq_iff.symm
  · intro token credentials text key other named hsubject htext
    rw [OfflineValidation.isBound_iff named hsubject htext, Certificate.publicKey_ofPublicKey_iff]
    constructor
    · rintro ⟨-, rfl, -⟩
      rfl
    · rintro rfl
      exact ⟨Certificate.isEmpty_ofPublicKey other, rfl, (ofWire_ok_iff.1 htext).2⟩

/-! ## Two keys with one point -/

/-- The neutral point, whose second coordinate is one. -/
def neutralKey : PublicKey := ⟨0x01 :: List.replicate 31 0x00, rfl⟩

/-- The same point, with the size of the field added to the second coordinate. -/
def unreducedKey : PublicKey := ⟨0xEE :: (List.replicate 30 0xFF ++ [0x7F]), rfl⟩

/-- The wire form of the second key between blank characters. -/
def unreducedText : String := "\t" ++ unreducedKey.wire ++ "\n"

def unreducedClaims : Claims where
  issuer := "p"
  subject := "s"
  expiration := 0
  issuedAt := none
  tokenId := none
  issuerKey := ""
  subjectKey := some unreducedText
  tokenType := .home
  attributes := Catalog.empty
  extra := Catalog.empty

/-- A token that names the second key, signed by nobody. -/
def unreducedToken : Token :=
  .written ⟨acceptedAlgorithm, none⟩
    (Claims.transportable_of_extra (rfl : unreducedClaims.extra = Catalog.empty)) []

/-- The octets stay as they are: the second key comes back from its wire form and from its
certificate, and the token that names it is not bound to the certificate of the first. -/
theorem unreduced_key_kept :
    (decompress unreducedKey.octets).map Point.y = (decompress neutralKey.octets).map Point.y ∧
      ofWire unreducedText = .ok unreducedKey ∧ unreducedKey.wire = Text.trim unreducedText ∧
      ofWire neutralKey.wire = .ok neutralKey ∧
      Text.trim unreducedText ≠ Text.trim neutralKey.wire ∧
      (Certificate.ofPublicKey unreducedKey).publicKey = .ok unreducedKey ∧
      OfflineValidation.isBound unreducedToken
        { token := "", clientCertificate := .ofPublicKey unreducedKey } = true ∧
      OfflineValidation.isBound unreducedToken
        { token := "", clientCertificate := .ofPublicKey neutralKey } = false := by
  have hunreduced : ofWire unreducedText = .ok unreducedKey := by decide +kernel
  have hneutral : ofWire neutralKey.wire = .ok neutralKey := by decide +kernel
  have hapart : unreducedKey ≠ neutralKey := by decide
  obtain ⟨hkeys, htexts, hsame, hbound⟩ := one_wire_form
  obtain ⟨-, -, hcertificate⟩ := hkeys unreducedKey (Or.inl ⟨_, hunreduced⟩)
  have hnamed : unreducedToken.tokenType ≠ .guest := TokenType.noConfusion
  have hbound := hbound unreducedToken { token := "" } unreducedText unreducedKey
  refine ⟨by decide +kernel, hunreduced, htexts _ _ hunreduced, hneutral, ?_, hcertificate,
    (hbound unreducedKey hnamed rfl hunreduced).2 rfl, ?_⟩
  · intro htrim
    exact hapart ((hsame _ _ _ _ hunreduced hneutral).2 htrim)
  · rw [Bool.eq_false_iff]
    intro hneutralBound
    exact hapart ((hbound neutralKey hnamed rfl hunreduced).1 hneutralBound).symm

end Ed25519.PublicKey

end FederatedAccess
