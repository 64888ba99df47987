import FederatedAccess.Encoding.Hex
import FederatedAccess.Json.Draft
import FederatedAccess.Proofs.Text.Utf8

/-!
# Texts in JSON read back

A text is written with an escape for each character that needs one, and as octets. A reader cuts the
octets into pieces and asks which text the pieces stand for. The relation `Spells` ties the three
together for a part of a text, and holds of a whole when it holds of its parts; for one character it
is settled case by case (`spells_escapeChar`).
-/

namespace FederatedAccess.Json.Draft

open Utf8 (encodeChars encodeChars_cons encodeChars_cons_ascii)

/-- The octets `written` are read as `parts`, whatever follows them, and these stand for `octets`,
whatever follows them. -/
structure Spells (written : List UInt8) (parts : List Piece) (octets : List UInt8) : Prop where
  read : ∀ rest, pieces (written ++ rest) =
    (pieces rest).map fun found => (parts ++ found.1, found.2)
  meaning : ∀ rest, octets? (parts ++ rest) = (octets? rest).map (octets ++ ·)

theorem escape_ne_quote : (0x5C : UInt8) ≠ 0x22 := by decide

namespace Spells

variable {written written' : List UInt8} {parts parts' : List Piece} {octets octets' : List UInt8}

theorem nil : Spells [] [] [] where
  read rest := by cases h : pieces rest <;> simp [h]
  meaning rest := by cases h : octets? rest <;> simp [h]

theorem append (h : Spells written parts octets) (h' : Spells written' parts' octets') :
    Spells (written ++ written') (parts ++ parts') (octets ++ octets') where
  read rest := by
    rw [List.append_assoc, h.read, h'.read]
    cases pieces rest <;> simp
  meaning rest := by
    rw [List.append_assoc, h.meaning, h'.meaning]
    cases octets? rest <;> simp

/-- An octet that stands for itself. -/
theorem octet {b : UInt8} (hquote : b ≠ 0x22) (hescape : b ≠ 0x5C) (hcontrol : ¬ b < 0x20) :
    Spells [b] [.octet b] [b] where
  read rest := by
    rw [List.singleton_append, pieces.eq_def]
    simp only [hquote, hescape, hcontrol, if_false]
    cases pieces rest <;> rfl
  meaning rest := by
    rw [List.singleton_append, octets?]
    cases octets? rest <;> rfl

/-- Octets that stand for themselves. -/
theorem octets_self {bs : List UInt8}
    (h : ∀ b ∈ bs, b ≠ 0x22 ∧ b ≠ 0x5C ∧ ¬ b < 0x20) : Spells bs (bs.map .octet) bs := by
  induction bs with
  | nil => exact nil
  | cons b rest ih =>
    obtain ⟨hb, hrest⟩ := List.forall_mem_cons.1 h
    exact append (octet hb.1 hb.2.1 hb.2.2) (ih hrest)

/-- A short escape. -/
theorem short {e b : UInt8} (hunit : e ≠ 0x75) (h : shortEscape? e = some b) :
    Spells [0x5C, e] [.octet b] [b] where
  read rest := by
    simp only [List.cons_append, List.nil_append]
    rw [pieces.eq_def]
    simp only [escape_ne_quote, if_false, if_true, hunit, h]
    cases pieces rest <;> rfl
  meaning rest := by
    rw [List.singleton_append, octets?]
    cases octets? rest <;> rfl

/-- A control character written by its code point. -/
theorem unit {c : Char} {high low : UInt8} (h : c.toNat < 0x80)
    (hhigh : hexValue? high = some (c.toNat / 16)) (hlow : hexValue? low = some (c.toNat % 16)) :
    Spells [0x5C, 0x75, 0x30, 0x30, high, low] [.unit c.toNat] (String.utf8EncodeChar c) where
  read rest := by
    have hzero : hexValue? 0x30 = some 0 := rfl
    have hsum : 0 * 4096 + 0 * 256 + c.toNat / 16 * 16 + c.toNat % 16 = c.toNat := by omega
    simp only [List.cons_append, List.nil_append]
    rw [pieces.eq_def]
    simp only [escape_ne_quote, if_false, if_true, hzero, hhigh, hlow, bind, Option.bind, hsum]
    cases pieces rest <;> rfl
  meaning rest := by
    -- a character of ASCII is no half of a pair
    have hfirst : ¬ (0xD800 ≤ c.toNat ∧ c.toNat < 0xDC00) := by omega
    have hsecond : ¬ (0xDC00 ≤ c.toNat ∧ c.toNat < 0xE000) := by omega
    rw [List.singleton_append, octets?.eq_def]
    simp only [hfirst, hsecond, if_false, Char.ofNat_toNat]

end Spells

/-! ## One character -/

/-- The digits of a control character are hexadecimal digits. -/
theorem escapeChar_control {c : Char} (hshort : c ∉ ['"', '\\', '\x08', '\t', '\n', '\x0c', '\r'])
    (hcontrol : c.toNat < 0x20) :
    escapeChar c = ['\\', 'u', '0', '0', Hex.digit (c.toNat / 16), Hex.digit (c.toNat % 16)] := by
  have hdigit : ∀ v < 16, (if v < 10 then Char.ofNat (v + 48) else Char.ofNat (v + 87)) =
      Hex.digit v := by decide
  simp only [List.mem_cons, List.not_mem_nil, or_false, not_or] at hshort
  simp only [escapeChar, hshort, if_false, hcontrol, if_true]
  rw [hdigit _ (by omega), hdigit _ (by omega)]

/-- A character that needs no escape. -/
theorem escapeChar_self {c : Char} (hshort : c ∉ ['"', '\\', '\x08', '\t', '\n', '\x0c', '\r'])
    (hcontrol : ¬ c.toNat < 0x20) : escapeChar c = [c] := by
  simp only [List.mem_cons, List.not_mem_nil, or_false, not_or] at hshort
  simp only [escapeChar, hshort, if_false, hcontrol]

theorem hexValue?_digit : ∀ v < 16, (Hex.digit v).toNat < 0x80 ∧
    hexValue? (UInt8.ofNat (Hex.digit v).toNat) = some v := by
  decide

/-- The octets of a character that needs no escape are no marks. -/
theorem not_mark_of_mem_encodeChar {c : Char} (hquote : c ≠ '"') (hescape : c ≠ '\\')
    (hcontrol : ¬ c.toNat < 0x20) {b : UInt8} (hb : b ∈ String.utf8EncodeChar c) :
    b ≠ 0x22 ∧ b ≠ 0x5C ∧ ¬ b < 0x20 := by
  by_cases hc : c.toNat < 0x80
  · rw [Utf8.encodeChar_ascii hc, List.mem_singleton] at hb
    have hv : b.toNat = c.toNat := by
      rw [hb, UInt8.toNat_ofNat']
      omega
    refine ⟨fun h => hquote ?_, fun h => hescape ?_, ?_⟩
    · rw [← Char.toNat_inj, ← hv, h]
      rfl
    · rw [← Char.toNat_inj, ← hv, h]
      rfl
    · rw [UInt8.lt_iff_toNat_lt, hv]
      exact hcontrol
  · have hlarge := Utf8.le_of_mem_encodeChar (Nat.le_of_not_lt hc) hb
    rw [UInt8.le_iff_toNat_le] at hlarge
    refine ⟨fun h => ?_, fun h => ?_, ?_⟩
    · rw [h] at hlarge
      exact absurd hlarge (by decide)
    · rw [h] at hlarge
      exact absurd hlarge (by decide)
    · rw [UInt8.lt_iff_toNat_lt]
      simp only [UInt8.reduceToNat] at hlarge ⊢
      omega

/-- **One character.** However it is written, it is read back. -/
theorem spells_escapeChar (c : Char) :
    ∃ parts, Spells (encodeChars (escapeChar c)) parts (String.utf8EncodeChar c) := by
  by_cases hshort : c ∈ ['"', '\\', '\x08', '\t', '\n', '\x0c', '\r']
  · simp only [List.mem_cons, List.not_mem_nil, or_false] at hshort
    rcases hshort with rfl | rfl | rfl | rfl | rfl | rfl | rfl
    · exact ⟨_, Spells.short (e := 0x22) (by decide) rfl⟩
    · exact ⟨_, Spells.short (e := 0x5C) (by decide) rfl⟩
    · exact ⟨_, Spells.short (e := 0x62) (by decide) rfl⟩
    · exact ⟨_, Spells.short (e := 0x74) (by decide) rfl⟩
    · exact ⟨_, Spells.short (e := 0x6E) (by decide) rfl⟩
    · exact ⟨_, Spells.short (e := 0x66) (by decide) rfl⟩
    · exact ⟨_, Spells.short (e := 0x72) (by decide) rfl⟩
  · by_cases hcontrol : c.toNat < 0x20
    · obtain ⟨hhigh, hhigh'⟩ := hexValue?_digit (c.toNat / 16) (by omega)
      obtain ⟨hlow, hlow'⟩ := hexValue?_digit (c.toNat % 16) (by omega)
      refine ⟨[.unit c.toNat], ?_⟩
      have hwritten : encodeChars (escapeChar c) = [0x5C, 0x75, 0x30, 0x30,
          UInt8.ofNat (Hex.digit (c.toNat / 16)).toNat,
          UInt8.ofNat (Hex.digit (c.toNat % 16)).toNat] := by
        rw [escapeChar_control hshort hcontrol, encodeChars_cons_ascii (by decide),
          encodeChars_cons_ascii (by decide), encodeChars_cons_ascii (by decide),
          encodeChars_cons_ascii (by decide), encodeChars_cons_ascii hhigh,
          encodeChars_cons_ascii hlow]
        rfl
      rw [hwritten]
      exact Spells.unit (by omega) hhigh' hlow'
    · rw [escapeChar_self hshort hcontrol, encodeChars_cons, Utf8.encodeChars_nil, List.append_nil]
      simp only [List.mem_cons, not_or] at hshort
      exact ⟨_, Spells.octets_self fun b hb =>
        not_mark_of_mem_encodeChar hshort.1 hshort.2.1 hcontrol hb⟩

/-! ## Texts -/

theorem spells_escaped (chars : List Char) :
    ∃ parts, Spells (encodeChars (chars.flatMap escapeChar)) parts (encodeChars chars) := by
  induction chars with
  | nil => exact ⟨[], .nil⟩
  | cons c rest ih =>
    obtain ⟨parts, hc⟩ := spells_escapeChar c
    obtain ⟨parts', hrest⟩ := ih
    refine ⟨parts ++ parts', ?_⟩
    rw [List.flatMap_cons, Utf8.encodeChars_append, encodeChars_cons]
    exact hc.append hrest

/-- **Texts.** What stands between the quotation marks of a written text is read as this text, and
the reader stops after the closing mark. -/
theorem pieces_escaped (s : String) (rest : List UInt8) :
    ∃ parts, pieces (encodeChars (s.toList.flatMap escapeChar) ++ 0x22 :: rest) =
        some (parts, rest) ∧ textOf parts = some s := by
  obtain ⟨parts, hspells⟩ := spells_escaped s.toList
  refine ⟨parts, ?_, ?_⟩
  · have hclose : pieces (0x22 :: rest) = some ([], rest) := by
      rw [pieces.eq_def]
      rfl
    rw [hspells.read, hclose, Option.map_some, List.append_nil]
  · have hmeaning := hspells.meaning []
    rw [List.append_nil, octets?, Option.map_some, List.append_nil] at hmeaning
    rw [textOf, hmeaning, Option.bind_some]
    exact Utf8.decode_encode s

end FederatedAccess.Json.Draft
