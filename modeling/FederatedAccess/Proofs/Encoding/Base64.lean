import FederatedAccess.Encoding.Base64
import FederatedAccess.Proofs.Results
import FederatedAccess.Text.Blank

/-!
# Base64 reads back

Reading undoes writing, in both alphabets and under both rules about the fill character
(`decodeChars_encodeChars`). Nothing else than digits and the fill is ever written, so a written
text has no dot and no blank character in it.

The reader takes more than what is written, with the fill in several forms, but what it takes is
still settled in length: so many digits for so many octets, and the fill behind them
(`decodeChars_eq_some`).
-/

namespace FederatedAccess.Base64

/-! ## Alphabets -/

/-- Every digit has its value, and none is the fill character. -/
def Alphabet.Faithful (alphabet : Alphabet) : Prop :=
  ∀ v < 64, alphabet.value? (alphabet.digit v) = some v ∧ alphabet.digit v ≠ '='

theorem standard_faithful : standard.Faithful := by
  unfold Alphabet.Faithful
  decide

theorem urlSafe_faithful : urlSafe.Faithful := by
  unfold Alphabet.Faithful
  decide

/-- What a reader with the rule `fill` takes as the fill of a group that lacks one octet. -/
def Fill.Takes (fill : Fill) (written : List Char) : Prop :=
  written = ['='] ∨ (written = [] ∧ fill = .optional)

variable {alphabet : Alphabet} {fill : Fill} {written : List Char} {octets : List UInt8}

/-! ## The groups -/

/-- The first octet of a group is in its first two digits. -/
theorem first_octet (a : UInt8) (b : Nat) (hb : b < 256) :
    UInt8.ofNat (a.toNat / 4 * 4 + (a.toNat % 4 * 16 + b / 16) / 16) = a := by
  have hsum : a.toNat / 4 * 4 + (a.toNat % 4 * 16 + b / 16) / 16 = a.toNat := by omega
  rw [hsum, UInt8.ofNat_toNat]

/-- The second octet of a group is in its middle digits. -/
theorem second_octet (a : Nat) (b : UInt8) (c : Nat) (hc : c < 256) :
    UInt8.ofNat ((a % 4 * 16 + b.toNat / 16) % 16 * 16 + (b.toNat % 16 * 4 + c / 64) / 4) = b := by
  have hb : b.toNat < 256 := b.toNat_lt
  have hsum : (a % 4 * 16 + b.toNat / 16) % 16 * 16 + (b.toNat % 16 * 4 + c / 64) / 4 =
      b.toNat := by omega
  rw [hsum, UInt8.ofNat_toNat]

/-- The third octet of a group is in its last two digits. -/
theorem third_octet (b : Nat) (c : UInt8) :
    UInt8.ofNat ((b % 16 * 4 + c.toNat / 64) % 4 * 64 + c.toNat % 64) = c := by
  have hc : c.toNat < 256 := c.toNat_lt
  have hsum : (b % 16 * 4 + c.toNat / 64) % 4 * 64 + c.toNat % 64 = c.toNat := by omega
  rw [hsum, UInt8.ofNat_toNat]

section Reading

variable (faithful : alphabet.Faithful) {p q r s : Nat} (hp : p < 64) (hq : q < 64)

include faithful hp hq

/-- A last group of four digits. -/
theorem decodeLast_four (hr : r < 64) (hs : s < 64) :
    decodeLast alphabet fill
        [alphabet.digit p, alphabet.digit q, alphabet.digit r, alphabet.digit s] =
      some [UInt8.ofNat (p * 4 + q / 16), UInt8.ofNat (q % 16 * 16 + r / 4),
        UInt8.ofNat (r % 4 * 64 + s)] := by
  simp [decodeLast, faithful p hp, faithful q hq, faithful r hr, faithful s hs]

/-- A last group of three digits with its fill. -/
theorem decodeLast_three (takes : fill.Takes written) (hr : r < 64) (hunused : r % 4 = 0) :
    decodeLast alphabet fill
        (alphabet.digit p :: alphabet.digit q :: alphabet.digit r :: written) =
      some [UInt8.ofNat (p * 4 + q / 16), UInt8.ofNat (q % 16 * 16 + r / 4)] := by
  rcases takes with rfl | ⟨rfl, rfl⟩ <;>
    simp [decodeLast, faithful p hp, faithful q hq, faithful r hr, hunused]

/-- A last group of two digits with its fill. -/
theorem decodeLast_two (takes : fill.Takes written) (hunused : q % 16 = 0) :
    decodeLast alphabet fill (alphabet.digit p :: alphabet.digit q :: (written ++ written)) =
      some [UInt8.ofNat (p * 4 + q / 16)] := by
  rcases takes with rfl | ⟨rfl, rfl⟩ <;>
    simp [decodeLast, faithful p hp, faithful q hq, hunused]

omit faithful hp hq in
/-- A text of one to four characters is a last group. -/
theorem decodeChars_last {group : List Char} (hsome : group ≠ []) (hshort : group.length ≤ 4) :
    decodeChars alphabet fill group = decodeLast alphabet fill group := by
  match group with
  | [] => exact absurd rfl hsome
  | [a] | [a, b] | [a, b, c] | [a, b, c, d] => rfl
  | a :: b :: c :: d :: e :: rest =>
    simp only [List.length_cons] at hshort
    omega

/-- A whole group with something after it. -/
theorem decodeChars_group (hr : r < 64) (hs : s < 64) {rest : List Char} (hrest : rest ≠ []) :
    decodeChars alphabet fill (alphabet.digit p :: alphabet.digit q :: alphabet.digit r ::
        alphabet.digit s :: rest) =
      (decodeChars alphabet fill rest).map fun octets =>
        UInt8.ofNat (p * 4 + q / 16) :: UInt8.ofNat (q % 16 * 16 + r / 4) ::
          UInt8.ofNat (r % 4 * 64 + s) :: octets := by
  obtain ⟨e, rest, rfl⟩ := List.exists_cons_of_ne_nil hrest
  rw [decodeChars, (faithful p hp).1, (faithful q hq).1, (faithful r hr).1, (faithful s hs).1]
  cases decodeChars alphabet fill (e :: rest) <;> rfl

end Reading

/-! ## Texts -/

theorem encodeChars_eq_nil_iff : encodeChars alphabet written octets = [] ↔ octets = [] := by
  fun_cases encodeChars alphabet written octets <;> simp

theorem Fill.Takes.length_le (takes : fill.Takes written) : written.length ≤ 1 := by
  rcases takes with rfl | ⟨rfl, -⟩ <;> simp

/-- **Reading undoes writing.** -/
theorem decodeChars_encodeChars (faithful : alphabet.Faithful) (takes : fill.Takes written)
    (octets : List UInt8) :
    decodeChars alphabet fill (encodeChars alphabet written octets) = some octets := by
  have hfill := takes.length_le
  fun_induction encodeChars alphabet written octets with
  | case1 a b c rest a' b' c' ih =>
    have ha : a.toNat < 256 := a.toNat_lt
    have hb : b.toNat < 256 := b.toNat_lt
    have hc : c.toNat < 256 := c.toNat_lt
    -- the reader takes a group for the last one exactly when nothing stands behind it
    by_cases hrest : encodeChars alphabet written rest = []
    · obtain rfl := encodeChars_eq_nil_iff.1 hrest
      rw [hrest, decodeChars_last (by simp) (by simp),
        decodeLast_four faithful (by omega) (by omega) (by omega) (by omega),
        first_octet a _ hb, second_octet _ b _ hc, third_octet _ c]
    · rw [decodeChars_group faithful (by omega) (by omega) (by omega) (by omega) hrest, ih,
        first_octet a _ hb, second_octet _ b _ hc, third_octet _ c]
      rfl
  | case2 a b a' b' =>
    have ha : a.toNat < 256 := a.toNat_lt
    have hb : b.toNat < 256 := b.toNat_lt
    -- the third digit is written as if an octet without bits followed
    have hsecond := second_octet a.toNat b 0 (by omega)
    rw [decodeChars_last (by simp) (by simp only [List.length_cons]; omega),
      decodeLast_three faithful (by omega) (by omega) takes (by omega) (by omega),
      first_octet a _ hb]
    rw [Nat.zero_div, Nat.add_zero] at hsecond
    rw [hsecond]
  | case3 a a' =>
    have ha : a.toNat < 256 := a.toNat_lt
    have hfirst := first_octet a 0 (by omega)
    rw [decodeChars_last (by simp) (by simp only [List.length_cons, List.length_append]; omega),
      decodeLast_two faithful (by omega) (by omega) takes (by omega)]
    rw [Nat.zero_div, Nat.add_zero] at hfirst
    rw [hfirst]
  | case4 => rfl

theorem decode?_encode (octets : List UInt8) : decode? (encode octets) = some octets := by
  rw [decode?, encode, String.toList_ofList]
  exact decodeChars_encodeChars standard_faithful (Or.inl rfl) octets

/-! ## What is written -/

/-- Only digits and the fill are written. -/
theorem mem_encodeChars {c : Char} (h : c ∈ encodeChars alphabet written octets) :
    (∃ v < 64, c = alphabet.digit v) ∨ c ∈ written := by
  fun_induction encodeChars alphabet written octets with
  | case1 a b d rest a' b' d' ih =>
    have ha : a.toNat < 256 := a.toNat_lt
    have hb : b.toNat < 256 := b.toNat_lt
    have hd : d.toNat < 256 := d.toNat_lt
    simp only [List.mem_cons] at h
    rcases h with h | h | h | h | h
    · exact Or.inl ⟨_, by omega, h⟩
    · exact Or.inl ⟨_, by omega, h⟩
    · exact Or.inl ⟨_, by omega, h⟩
    · exact Or.inl ⟨_, by omega, h⟩
    · exact ih h
  | case2 a b a' b' =>
    have ha : a.toNat < 256 := a.toNat_lt
    have hb : b.toNat < 256 := b.toNat_lt
    simp only [List.mem_cons] at h
    rcases h with h | h | h | h
    · exact Or.inl ⟨_, by omega, h⟩
    · exact Or.inl ⟨_, by omega, h⟩
    · exact Or.inl ⟨_, by omega, h⟩
    · exact Or.inr h
  | case3 a a' =>
    have ha : a.toNat < 256 := a.toNat_lt
    simp only [List.mem_cons, List.mem_append, or_self] at h
    rcases h with h | h | h
    · exact Or.inl ⟨_, by omega, h⟩
    · exact Or.inl ⟨_, by omega, h⟩
    · exact Or.inr h
  | case4 => simp at h

/-- Nothing blank is written, and no dot, with any fill that has neither. -/
theorem not_blank_of_mem_encodeChars {c : Char} (h : c ∈ encodeChars standard ['='] octets) :
    Text.isBlank c = false := by
  have hdigits : ∀ v < 64, Text.isBlank (standard.digit v) = false := by decide
  rcases mem_encodeChars h with ⟨v, hv, rfl⟩ | h
  · exact hdigits v hv
  · rw [List.mem_singleton.1 h]
    decide

theorem urlSafe_mem_encodeChars {c : Char} (h : c ∈ encodeChars urlSafe [] octets) :
    Text.isBlank c = false ∧ c ≠ '.' := by
  have hdigits : ∀ v < 64, Text.isBlank (urlSafe.digit v) = false ∧ urlSafe.digit v ≠ '.' := by
    decide
  rcases mem_encodeChars h with ⟨v, hv, rfl⟩ | h
  · exact hdigits v hv
  · exact absurd h List.not_mem_nil

/-! ## What is read -/

/-- A last group is digits and the fill behind them, and stands for one octet less than it has
digits. -/
theorem decodeLast_eq_some {group : List Char} (h : decodeLast alphabet fill group = some octets) :
    (∀ c ∈ group.dropWhile (· ≠ '='), c = '=') ∧
      (group.takeWhile (· ≠ '=')).length = octets.length + 1 ∧ 1 ≤ octets.length ∧
      octets.length ≤ 3 := by
  simp only [decodeLast] at h
  split at h
  · cases h
  · rename_i hfill
    obtain ⟨values, hvalues, h⟩ := Option.bind_eq_some_iff.1 h
    rw [(mapM_eq_some_iff.1 hvalues).length_eq]
    refine ⟨?_, ?_⟩
    · intro c hc
      rw [Bool.or_eq_true, not_or, Bool.not_eq_true', Bool.not_eq_false] at hfill
      simpa using List.all_eq_true.1 hfill.1 c hc
    · split at h
      · split at h
        · cases h
          simp
        · cases h
      · split at h
        · cases h
          simp
        · cases h
      · cases h
        simp
      · cases h

theorem ne_fill_of_value? (hfill : alphabet.value? '=' = none) {c : Char} {v : Nat}
    (h : alphabet.value? c = some v) : c ≠ '=' := by
  rintro rfl
  rw [hfill] at h
  cases h

/-- **What is read.** A text that can be read is digits and the fill behind them, and it has as many
digits as its octets need. -/
theorem decodeChars_eq_some (hfill : alphabet.value? '=' = none) {chars : List Char}
    (h : decodeChars alphabet fill chars = some octets) :
    ∃ digits count, chars = digits ++ List.replicate count '=' ∧ '=' ∉ digits ∧
      digits.length = (octets.length * 4 + 2) / 3 := by
  fun_induction decodeChars alphabet fill chars generalizing octets with
  | case1 =>
    cases h
    exact ⟨[], 0, rfl, List.not_mem_nil, rfl⟩
  | case2 a b c d e rest ih =>
    obtain ⟨p, hp, h⟩ := Option.bind_eq_some_iff.1 h
    obtain ⟨q, hq, h⟩ := Option.bind_eq_some_iff.1 h
    obtain ⟨r, hr, h⟩ := Option.bind_eq_some_iff.1 h
    obtain ⟨s, hs, h⟩ := Option.bind_eq_some_iff.1 h
    obtain ⟨more, hmore, h⟩ := Option.bind_eq_some_iff.1 h
    cases h
    obtain ⟨digits, count, hchars, hdigits, hlength⟩ := ih hmore
    refine ⟨a :: b :: c :: d :: digits, count, by rw [hchars]; rfl, ?_, ?_⟩
    · simp only [List.mem_cons, not_or]
      exact ⟨(ne_fill_of_value? hfill hp).symm, (ne_fill_of_value? hfill hq).symm,
        (ne_fill_of_value? hfill hr).symm, (ne_fill_of_value? hfill hs).symm, hdigits⟩
    · simp only [List.length_cons, hlength]
      omega
  | case3 group hlast hmore =>
    obtain ⟨hrest, hlength, hone, hthree⟩ := decodeLast_eq_some h
    refine ⟨group.takeWhile (· ≠ '='), (group.dropWhile (· ≠ '=')).length, ?_, ?_, ?_⟩
    · rw [← List.eq_replicate_of_mem hrest, List.takeWhile_append_dropWhile]
    · intro hmem
      simpa using List.all_eq_true.1 List.all_takeWhile '=' hmem
    · rw [hlength]
      omega

end FederatedAccess.Base64
