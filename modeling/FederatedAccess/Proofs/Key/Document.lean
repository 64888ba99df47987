import FederatedAccess.Key.Document
import FederatedAccess.Proofs.Encoding.Base64

/-!
# Keys and signatures in transport

The wire form of a key gives the key back, provided that its octets are a point of the curve. No
signature verifies under other octets, so a key whose owner's signatures verify always comes
through.
-/

namespace FederatedAccess

theorem Base64.trim_encode (octets : List UInt8) : Text.trim (encode octets) = encode octets := by
  refine Text.trim_eq_self fun c hc => ?_
  rw [encode, String.toList_ofList] at hc
  exact not_blank_of_mem_encodeChars hc

namespace Ed25519

/-- A signature verifies under a key whose octets are a point, or not at all. -/
theorem PublicKey.isPoint_of_accepts {key : PublicKey} {strict : Bool}
    {message commitment : List UInt8} {response : Nat}
    (h : key.accepts strict message commitment response = true) :
    (decompress key.octets).isSome = true := by
  unfold accepts at h
  cases hpoint : decompress key.octets with
  | none => simp [hpoint] at h
  | some point => rfl

theorem PublicKey.isPoint_of_verifies {key : PublicKey} {message signature : List UInt8}
    (h : key.verifies message signature = true) : (decompress key.octets).isSome = true := by
  unfold verifies at h
  split at h
  · exact isPoint_of_accepts h
  · cases h

theorem PublicKey.isPoint_of_verifiesStrictly {key : PublicKey} {message signature : List UInt8}
    (h : key.verifiesStrictly message signature = true) :
    (decompress key.octets).isSome = true := by
  unfold verifiesStrictly at h
  split at h
  · exact isPoint_of_accepts h
  · cases h

theorem PublicKey.length_of_verifiesStrictly {key : PublicKey} {message signature : List UInt8}
    (h : key.verifiesStrictly message signature = true) : signature.length = 64 := by
  by_cases hlength : signature.length = 64
  · exact hlength
  · have hparts : parts? signature = none := by simp [parts?, hlength]
    simp [verifiesStrictly, hparts] at h

theorem PublicKey.ofDocument?_document {key : PublicKey}
    (h : (decompress key.octets).isSome = true) : ofDocument? key.document = some key := by
  rw [ofDocument?, document, if_pos (List.isPrefixOf_iff_prefix.2 (List.prefix_append _ _)),
    List.drop_left, ofOctets?, dif_pos h]

/-- **Wire forms.** -/
theorem PublicKey.ofWire_wire {key : PublicKey} (h : (decompress key.octets).isSome = true) :
    ofWire key.wire = .ok key := by
  rw [ofWire, wire, Base64.trim_encode, Base64.decode?_encode]
  simp only [ofDocument?_document h]

/-- The key whose seed is one octet over and over. -/
def SecretKey.uniform (octet : UInt8) : SecretKey where
  seed := List.replicate 32 octet
  length_eq := List.length_replicate

/-- A signature in transport verifies exactly when it does so as octets. -/
theorem PublicKey.verifiesText_signText (key : PublicKey) (secret : SecretKey) (text : String) :
    key.verifiesText text (secret.signText text) =
      key.verifies (Utf8.encode text) (secret.sign (Utf8.encode text)) := by
  rw [verifiesText, SecretKey.signText, Base64.decode?_encode]

end Ed25519

end FederatedAccess
