import FederatedAccess.Text.Utf8

/-!
# UTF-8 reads back

The octets of a text are well formed and stand for this text (`decode_encode`). A character of ASCII
is one octet, its code point; all octets of any other character lie beyond ASCII (`encodeChar_ascii`,
`le_of_mem_encodeChar`), so that a reader of octets cannot take a part of one for a mark of its own.
-/

namespace FederatedAccess.Utf8

/-! ## One character -/

theorem isValidChar_toNat (c : Char) : c.toNat.isValidChar := c.valid

/-- A character of ASCII is one octet. -/
theorem encodeChar_ascii {c : Char} (h : c.toNat < 0x80) :
    String.utf8EncodeChar c = [UInt8.ofNat c.toNat] := by
  unfold String.utf8EncodeChar
  rw [if_pos (show c.val.toNat ≤ 0x7f from Nat.le_of_lt_succ h)]
  rfl

/-- Every octet of a character beyond ASCII is beyond ASCII. -/
theorem le_of_mem_encodeChar {c : Char} (h : 0x80 ≤ c.toNat) {b : UInt8}
    (hb : b ∈ String.utf8EncodeChar c) : 0x80 ≤ b := by
  have hlarge : ¬ c.val.toNat ≤ 0x7f := Nat.not_le_of_lt h
  have hvalid : c.val.toNat < 0x110000 := by
    have := isValidChar_toNat c
    unfold Nat.isValidChar at this
    have hc : c.toNat = c.val.toNat := rfl
    omega
  rw [UInt8.le_iff_toNat_le]
  unfold String.utf8EncodeChar at hb
  simp only [hlarge, if_false] at hb
  split at hb
  · simp only [List.mem_cons, List.not_mem_nil, or_false] at hb
    rcases hb with rfl | rfl <;> simp only [UInt8.toNat_ofNat', UInt8.reduceToNat] <;> omega
  · split at hb
    · simp only [List.mem_cons, List.not_mem_nil, or_false] at hb
      rcases hb with rfl | rfl | rfl <;> simp only [UInt8.toNat_ofNat', UInt8.reduceToNat] <;> omega
    · simp only [List.mem_cons, List.not_mem_nil, or_false] at hb
      rcases hb with rfl | rfl | rfl | rfl <;> simp only [UInt8.toNat_ofNat', UInt8.reduceToNat] <;>
        omega

/-! ## Reading -/

theorem continuation?_ofNat {v : Nat} (h : v < 0x40) :
    continuation? (UInt8.ofNat (v + 0x80)) = some v := by
  have hv : (UInt8.ofNat (v + 0x80)).toNat = v + 0x80 := by
    rw [UInt8.toNat_ofNat']
    omega
  have hrange : 0x80 ≤ UInt8.ofNat (v + 0x80) ∧ UInt8.ofNat (v + 0x80) ≤ 0xBF := by
    simp only [UInt8.le_iff_toNat_le, hv, UInt8.reduceToNat]
    omega
  rw [continuation?, if_pos hrange, hv, Nat.add_sub_cancel]

theorem character?_toNat {c : Char} {least v : Nat} (hv : v = c.toNat) (h : least ≤ c.toNat) :
    character? least v = some c := by
  rw [character?, hv, if_pos ⟨h, isValidChar_toNat c⟩, Char.ofNat_toNat]

section Octets

variable {a b c d : UInt8} {u v w : Nat} {least : Nat} {rest : List UInt8} {character : Char}

theorem decodeChars_one (ha : a < 0x80) :
    decodeChars (a :: rest) = (decodeChars rest).map (Char.ofNat a.toNat :: ·) := by
  rw [decodeChars.eq_def]
  simp only [ha, if_true]

theorem decodeChars_two (ha : 0xC0 ≤ a ∧ a < 0xE0) (hb : continuation? b = some v)
    (hc : character? 0x80 ((a.toNat - 0xC0) * 64 + v) = some character) :
    decodeChars (a :: b :: rest) = (decodeChars rest).map (character :: ·) := by
  have hlarge : ¬ a < 0x80 := by
    have := ha.1
    rw [UInt8.le_iff_toNat_le] at this
    rw [UInt8.lt_iff_toNat_lt]
    simp only [UInt8.reduceToNat] at this ⊢
    omega
  rw [decodeChars.eq_def]
  simp [hlarge, ha, hb, hc]

theorem decodeChars_three (ha : 0xE0 ≤ a ∧ a < 0xF0) (hb : continuation? b = some u)
    (hc : continuation? c = some v)
    (hd : character? 0x800 ((a.toNat - 0xE0) * 4096 + u * 64 + v) = some character) :
    decodeChars (a :: b :: c :: rest) = (decodeChars rest).map (character :: ·) := by
  have hlarge : ¬ a < 0x80 ∧ ¬ a < 0xE0 := by
    have := ha.1
    rw [UInt8.le_iff_toNat_le] at this
    rw [UInt8.lt_iff_toNat_lt, UInt8.lt_iff_toNat_lt]
    simp only [UInt8.reduceToNat] at this ⊢
    omega
  rw [decodeChars.eq_def]
  simp [hlarge, ha, hb, hc, hd]

/-- An octet that leads neither one, two nor three is read with the three that follow it. -/
theorem decodeChars_long (ha : ¬ a < 0x80 ∧ ¬ (0xC0 ≤ a ∧ a < 0xE0) ∧ ¬ (0xE0 ≤ a ∧ a < 0xF0))
    (hb : continuation? b = some u) (hc : continuation? c = some v)
    (hd : continuation? d = some w) :
    decodeChars (a :: b :: c :: d :: rest) =
      if 0xF0 ≤ a ∧ a < 0xF8 then
        (character? 0x10000 ((a.toNat - 0xF0) * 262144 + u * 4096 + v * 64 + w)).bind fun character =>
          (decodeChars rest).map (character :: ·)
      else none := by
  obtain ⟨hone, htwo, hthree⟩ := ha
  rw [decodeChars.eq_def]
  simp only [if_neg hone, if_neg htwo, if_neg hthree, hb, hc, hd, Option.bind_eq_bind,
    Option.bind_some]

theorem decodeChars_four (ha : 0xF0 ≤ a ∧ a < 0xF8) (hb : continuation? b = some u)
    (hc : continuation? c = some v) (hd : continuation? d = some w)
    (he : character? 0x10000 ((a.toNat - 0xF0) * 262144 + u * 4096 + v * 64 + w) =
      some character) :
    decodeChars (a :: b :: c :: d :: rest) = (decodeChars rest).map (character :: ·) := by
  have hlarge : ¬ a < 0x80 ∧ ¬ a < 0xE0 ∧ ¬ a < 0xF0 := by
    have := ha.1
    rw [UInt8.le_iff_toNat_le] at this
    rw [UInt8.lt_iff_toNat_lt, UInt8.lt_iff_toNat_lt, UInt8.lt_iff_toNat_lt]
    simp only [UInt8.reduceToNat] at this ⊢
    omega
  obtain ⟨hone, htwo, hthree⟩ := hlarge
  rw [decodeChars_long ⟨hone, fun h => htwo h.2, fun h => hthree h.2⟩ hb hc hd, if_pos ha, he,
    Option.bind_some]

end Octets

/-- A character is read back in front of anything. -/
theorem decodeChars_encodeChar (c : Char) (rest : List UInt8) :
    decodeChars (String.utf8EncodeChar c ++ rest) = (decodeChars rest).map (c :: ·) := by
  have hc : c.toNat = c.val.toNat := rfl
  have hvalid : c.val.toNat < 0x110000 := by
    have := isValidChar_toNat c
    unfold Nat.isValidChar at this
    omega
  -- the octet that leads a character is in range, whatever of the code point it holds
  have hlead : ∀ v < 0x100, (UInt8.ofNat v).toNat = v := fun v hv => by
    rw [UInt8.toNat_ofNat']
    omega
  have hmod : ∀ v : Nat, v % 64 < 0x40 := fun v => Nat.mod_lt v (by decide)
  unfold String.utf8EncodeChar
  simp only
  split
  · rename_i h
    rw [List.singleton_append, decodeChars_one, hlead _ (by omega), ← hc, Char.ofNat_toNat]
    rw [UInt8.lt_iff_toNat_lt, hlead _ (by omega)]
    simp only [UInt8.reduceToNat]
    omega
  · split
    · refine decodeChars_two ?_ (continuation?_ofNat (hmod _)) (character?_toNat ?_ ?_)
      · rw [UInt8.le_iff_toNat_le, UInt8.lt_iff_toNat_lt, hlead _ (by omega)]
        simp only [UInt8.reduceToNat]
        omega
      · rw [hlead _ (by omega), hc]
        omega
      · omega
    · split
      · refine decodeChars_three ?_ (continuation?_ofNat (hmod _)) (continuation?_ofNat (hmod _))
          (character?_toNat ?_ ?_)
        · rw [UInt8.le_iff_toNat_le, UInt8.lt_iff_toNat_lt, hlead _ (by omega)]
          simp only [UInt8.reduceToNat]
          omega
        · rw [hlead _ (by omega), hc]
          omega
        · omega
      · refine decodeChars_four ?_ (continuation?_ofNat (hmod _)) (continuation?_ofNat (hmod _))
          (continuation?_ofNat (hmod _)) (character?_toNat ?_ ?_)
        · rw [UInt8.le_iff_toNat_le, UInt8.lt_iff_toNat_lt, hlead _ (by omega)]
          simp only [UInt8.reduceToNat]
          omega
        · rw [hlead _ (by omega), hc]
          omega
        · omega

/-! ## Texts -/

/-- The octets of a sequence of characters. -/
def encodeChars (chars : List Char) : List UInt8 :=
  chars.flatMap String.utf8EncodeChar

@[simp] theorem encodeChars_nil : encodeChars [] = [] := rfl

@[simp] theorem encodeChars_append (xs ys : List Char) :
    encodeChars (xs ++ ys) = encodeChars xs ++ encodeChars ys :=
  List.flatMap_append

theorem encodeChars_cons (c : Char) (chars : List Char) :
    encodeChars (c :: chars) = String.utf8EncodeChar c ++ encodeChars chars :=
  List.flatMap_cons

theorem encodeChars_cons_ascii {c : Char} (h : c.toNat < 0x80) (chars : List Char) :
    encodeChars (c :: chars) = UInt8.ofNat c.toNat :: encodeChars chars := by
  rw [encodeChars_cons, encodeChar_ascii h, List.singleton_append]

theorem encode_ofList (chars : List Char) : encode (String.ofList chars) = encodeChars chars := by
  rw [encode, String.toList_ofList, encodeChars]

theorem length_le_encodeChars (chars : List Char) : chars.length ≤ (encodeChars chars).length := by
  induction chars with
  | nil => simp
  | cons c rest ih =>
    have hc : 0 < (String.utf8EncodeChar c).length :=
      List.length_pos_iff.2 String.utf8EncodeChar_ne_nil
    rw [encodeChars_cons, List.length_append, List.length_cons]
    omega

theorem decodeChars_encodeChars (chars : List Char) :
    decodeChars (encodeChars chars) = some chars := by
  induction chars with
  | nil => rfl
  | cons c rest ih => rw [encodeChars_cons, decodeChars_encodeChar, ih, Option.map_some]

/-- **Reading undoes writing.** -/
theorem decode_encode (text : String) : decode (encode text) = some text := by
  rw [decode, encode, ← encodeChars, decodeChars_encodeChars, Option.map_some, String.ofList_toList]

end FederatedAccess.Utf8
