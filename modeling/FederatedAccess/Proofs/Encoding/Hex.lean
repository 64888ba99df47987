import FederatedAccess.Encoding.Hex

/-!
# Hexadecimal text reads back

Two digits to an octet, none of them a dot, and the octets can be told from them
(`encode_injective`).
-/

namespace FederatedAccess.Hex

theorem value?_digit : ∀ v < 16, value? (digit v) = some v := by
  decide

/-- **Reading undoes writing.** -/
theorem decodeChars_encodeChars (octets : List UInt8) :
    decodeChars (encodeChars octets) = some octets := by
  induction octets with
  | nil => rfl
  | cons octet rest ih =>
    have hoctet : octet.toNat < 256 := octet.toNat_lt
    have hcons : encodeChars (octet :: rest) =
        digit (octet.toNat / 16) :: digit (octet.toNat % 16) :: encodeChars rest := rfl
    have hvalue : octet.toNat / 16 * 16 + octet.toNat % 16 = octet.toNat := by omega
    rw [hcons, decodeChars, value?_digit _ (by omega), value?_digit _ (by omega), ih]
    simp only [Option.bind_eq_bind, Option.bind_some, hvalue, UInt8.ofNat_toNat]

theorem encode_injective {xs ys : List UInt8} (h : encode xs = encode ys) : xs = ys := by
  have hchars : encodeChars xs = encodeChars ys := String.ofList_injective h
  have hx := decodeChars_encodeChars xs
  rw [hchars, decodeChars_encodeChars] at hx
  exact (Option.some.inj hx).symm

theorem length_encodeChars (octets : List UInt8) :
    (encodeChars octets).length = 2 * octets.length := by
  induction octets with
  | nil => rfl
  | cons octet rest ih =>
    show (encodeChars rest).length + 1 + 1 = 2 * (rest.length + 1)
    rw [ih]
    omega

theorem mem_encodeChars {octets : List UInt8} {c : Char} (h : c ∈ encodeChars octets) :
    ∃ v < 16, c = digit v := by
  obtain ⟨octet, -, hc⟩ := List.mem_flatMap.1 h
  have hoctet : octet.toNat < 256 := octet.toNat_lt
  simp only [List.mem_cons, List.not_mem_nil, or_false] at hc
  rcases hc with rfl | rfl
  · exact ⟨octet.toNat / 16, by omega, rfl⟩
  · exact ⟨octet.toNat % 16, by omega, rfl⟩

end FederatedAccess.Hex
