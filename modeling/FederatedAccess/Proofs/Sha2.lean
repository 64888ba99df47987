import FederatedAccess.Proofs.Encoding.Hex
import FederatedAccess.Proofs.Text.Utf8
import FederatedAccess.Sha2

/-!
# Digests as text

The SHA-256 digest of a text is written in 64 hexadecimal digits. Texts with the same digest are the
same, or their octets are a collision (`eq_or_collide`).
-/

namespace FederatedAccess.Sha2

variable {w : Nat}

/-- Different messages with one SHA-256 digest. -/
structure Collide (a b : List UInt8) : Prop where
  ne : a ≠ b
  digest_eq : digest sha256 a = digest sha256 b

theorem length_bigEndian (n count : Nat) : (bigEndian n count).length = count := by
  induction count with
  | zero => rfl
  | succ count ih => rw [bigEndian, List.length_cons, ih]

/-- A digest has the octets of eight words. -/
theorem length_digest (v : Variant w) (message : List UInt8) :
    (digest v message).length = 8 * (w / 8) := by
  have hwords : ∀ x : Chain w, (x.toList.flatMap octetsOf).length = 8 * (w / 8) := by
    intro x
    have hword : ∀ word : BitVec w, (octetsOf word).length = w / 8 :=
      fun word => length_bigEndian _ _
    simp only [Chain.toList, List.flatMap_cons, List.flatMap_nil, List.length_append, hword,
      List.length_nil]
    omega
  exact hwords _

/-- **Length.** -/
theorem length_hexOfText (text : String) : (hexOfText text).toList.length = 64 := by
  rw [hexOfText, Hex.encode, String.toList_ofList, Hex.length_encodeChars, length_digest]

theorem mem_hexOfText {text : String} {c : Char} (h : c ∈ (hexOfText text).toList) :
    ∃ v < 16, c = Hex.digit v := by
  rw [hexOfText, Hex.encode, String.toList_ofList] at h
  exact Hex.mem_encodeChars h

theorem dot_not_mem_hexOfText (text : String) : '.' ∉ (hexOfText text).toList := by
  intro hdot
  have hdigits : ∀ v < 16, '.' ≠ Hex.digit v := by decide
  obtain ⟨v, hv, h⟩ := mem_hexOfText hdot
  exact hdigits v hv h

/-- **The same digest.** Only equal texts have it, short of a collision. -/
theorem eq_or_collide {a b : String} (h : hexOfText a = hexOfText b) :
    a = b ∨ Collide (Utf8.encode a) (Utf8.encode b) := by
  by_cases hoctets : Utf8.encode a = Utf8.encode b
  · have ha := Utf8.decode_encode a
    rw [hoctets, Utf8.decode_encode] at ha
    exact Or.inl (Option.some.inj ha).symm
  · exact Or.inr ⟨hoctets, Hex.encode_injective h⟩

end FederatedAccess.Sha2
