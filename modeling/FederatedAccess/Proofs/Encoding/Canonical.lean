import FederatedAccess.Proofs.Encoding.Base64

/-!
# Exactly the base64 texts that are read

Unused bits of a last digit must be zero, so the digits of a text that can be read are those that are
written for its octets. Only the fill is left open, and only by the reader for which it is optional:
it may then stand in full, in part or not at all (`decodeChars_eq_some_iff`). Standard base64, where it
is required, has one text for some octets (`decode?_eq_some_iff`).
-/

namespace FederatedAccess.Base64

variable {alphabet : Alphabet} {fill : Fill} {written : List Char} {octets : List UInt8}

/-! ## Digits and fill -/

/-- Only a digit has a value. -/
theorem Alphabet.digit_of_value? {c : Char} {v : Nat} (h : alphabet.value? c = some v) :
    v < 64 ∧ alphabet.digit v = c := by
  have hrange : ∀ {low high : Char}, low ≤ c ∧ c ≤ high → low.toNat ≤ c.toNat ∧ c.toNat ≤ high.toNat :=
    fun hc => ⟨UInt32.le_iff_toNat_le.1 hc.1, UInt32.le_iff_toNat_le.1 hc.2⟩
  unfold Alphabet.value? at h
  split at h
  · rename_i hc
    obtain ⟨hlow, hhigh⟩ : 65 ≤ c.toNat ∧ c.toNat ≤ 90 := hrange hc
    cases h
    refine ⟨by omega, ?_⟩
    rw [Alphabet.digit, if_pos (by omega), Nat.sub_add_cancel hlow, Char.ofNat_toNat]
  · split at h
    · rename_i hc
      obtain ⟨hlow, hhigh⟩ : 97 ≤ c.toNat ∧ c.toNat ≤ 122 := hrange hc
      cases h
      refine ⟨by omega, ?_⟩
      rw [Alphabet.digit, if_neg (by omega), if_pos (by omega), Nat.add_sub_cancel,
        Nat.sub_add_cancel hlow, Char.ofNat_toNat]
    · split at h
      · rename_i hc
        obtain ⟨hlow, hhigh⟩ : 48 ≤ c.toNat ∧ c.toNat ≤ 57 := hrange hc
        cases h
        refine ⟨by omega, ?_⟩
        rw [Alphabet.digit, if_neg (by omega), if_neg (by omega), if_pos (by omega),
          Nat.add_sub_cancel, Nat.sub_add_cancel hlow, Char.ofNat_toNat]
      · split at h
        · rename_i hc
          cases h
          exact ⟨by decide, hc.symm⟩
        · split at h
          · rename_i hc
            cases h
            exact ⟨by decide, hc.symm⟩
          · cases h

/-- The octets that the last group of so many octets lacks. -/
def missing (count : Nat) : Nat :=
  (3 - count % 3) % 3

/-- How many fill characters may stand behind the digits of a number of octets. -/
def Fill.Allows (fill : Fill) (octets count : Nat) : Prop :=
  match fill with
  | .required => count = missing octets
  | .optional => count ≤ missing octets

theorem Fill.Allows.le_missing {count n : Nat} (h : fill.Allows n count) : count ≤ missing n := by
  cases fill with
  | required => exact Nat.le_of_eq h
  | optional => exact h

theorem missing_add_three (n : Nat) : missing (n + 3) = missing n := by
  simp [missing]

theorem Fill.allows_add_three {count n : Nat} : fill.Allows (n + 3) count ↔ fill.Allows n count := by
  cases fill with
  | required => rw [Fill.Allows, Fill.Allows, missing_add_three]
  | optional => rw [Fill.Allows, Fill.Allows, missing_add_three]

/-- Two digits with as much fill as is allowed. -/
theorem decodeLast_two_filled (faithful : alphabet.Faithful) {p q count : Nat} (hp : p < 64)
    (hq : q < 64) (hunused : q % 16 = 0) (allows : fill.Allows 1 count) :
    decodeLast alphabet fill
        (alphabet.digit p :: alphabet.digit q :: List.replicate count '=') =
      some [UInt8.ofNat (p * 4 + q / 16)] := by
  cases fill with
  | required =>
    obtain rfl : count = 2 := allows
    simp [decodeLast, faithful p hp, faithful q hq, hunused]
  | optional =>
    have hcount : count ≤ 2 := allows
    have hcases : count = 0 ∨ count = 1 ∨ count = 2 := by omega
    rcases hcases with rfl | rfl | rfl <;>
      simp [decodeLast, faithful p hp, faithful q hq, hunused]

theorem Fill.takes_of_allows {count : Nat} (allows : fill.Allows 2 count) :
    fill.Takes (List.replicate count '=') := by
  cases fill with
  | required =>
    obtain rfl : count = 1 := allows
    exact Or.inl rfl
  | optional =>
    have hcount : count ≤ 1 := allows
    have hcases : count = 0 ∨ count = 1 := by omega
    rcases hcases with rfl | rfl
    · exact Or.inr ⟨rfl, rfl⟩
    · exact Or.inl rfl

/-! ## Reading -/

/-- Every form of a text's digits and fill is read. -/
theorem decodeChars_filled (faithful : alphabet.Faithful) {count : Nat}
    (allows : fill.Allows octets.length count) :
    decodeChars alphabet fill (encodeChars alphabet [] octets ++ List.replicate count '=') =
      some octets := by
  fun_induction encodeChars alphabet [] octets with
  | case1 a b c rest a' b' c' ih =>
    have ha : a.toNat < 256 := a.toNat_lt
    have hb : b.toNat < 256 := b.toNat_lt
    have hc : c.toNat < 256 := c.toNat_lt
    simp only [List.cons_append]
    by_cases hrest : encodeChars alphabet [] rest ++ List.replicate count '=' = []
    · obtain rfl := encodeChars_eq_nil_iff.1 (List.append_eq_nil_iff.1 hrest).1
      rw [hrest, decodeChars_last (by simp) (by simp),
        decodeLast_four faithful (by omega) (by omega) (by omega) (by omega),
        first_octet a _ hb, second_octet _ b _ hc, third_octet _ c]
    · rw [decodeChars_group faithful (by omega) (by omega) (by omega) (by omega) hrest,
        ih (Fill.allows_add_three.1 allows), first_octet a _ hb, second_octet _ b _ hc,
        third_octet _ c]
      rfl
  | case2 a b a' b' =>
    have ha : a.toNat < 256 := a.toNat_lt
    have hb : b.toNat < 256 := b.toNat_lt
    have htakes := Fill.takes_of_allows allows
    have hshort := htakes.length_le
    have hsecond := second_octet a.toNat b 0 (by omega)
    rw [Nat.zero_div, Nat.add_zero] at hsecond
    simp only [List.cons_append, List.nil_append]
    rw [decodeChars_last (by simp) (by simp only [List.length_cons]; omega),
      decodeLast_three faithful (by omega) (by omega) htakes (by omega) (by omega),
      first_octet a _ hb, hsecond]
  | case3 a a' =>
    have ha : a.toNat < 256 := a.toNat_lt
    have hcount : count ≤ 2 := allows.le_missing
    have hfirst := first_octet a 0 (by omega)
    rw [Nat.zero_div, Nat.add_zero] at hfirst
    simp only [List.append_nil, List.cons_append, List.nil_append]
    rw [decodeChars_last (by simp) (by simp only [List.length_cons, List.length_replicate]; omega),
      decodeLast_two_filled faithful (by omega) (by omega) (by omega) allows, hfirst]
  | case4 =>
    obtain rfl : count = 0 := Nat.le_zero.1 allows.le_missing
    rfl

/-! ## Digits of what was read -/

/-- Four digits are written for the octets that they stand for. -/
theorem encodeChars_group {p q r s : Nat} (hp : p < 64) (hq : q < 64) (hr : r < 64) (hs : s < 64)
    (rest : List UInt8) :
    encodeChars alphabet written (UInt8.ofNat (p * 4 + q / 16) ::
        UInt8.ofNat (q % 16 * 16 + r / 4) :: UInt8.ofNat (r % 4 * 64 + s) :: rest) =
      alphabet.digit p :: alphabet.digit q :: alphabet.digit r :: alphabet.digit s ::
        encodeChars alphabet written rest := by
  have hfirst : (p * 4 + q / 16) % 256 = p * 4 + q / 16 := by omega
  have hsecond : (q % 16 * 16 + r / 4) % 256 = q % 16 * 16 + r / 4 := by omega
  have hthird : (r % 4 * 64 + s) % 256 = r % 4 * 64 + s := by omega
  have hp' : (p * 4 + q / 16) / 4 = p := by omega
  have hq' : (p * 4 + q / 16) % 4 * 16 + (q % 16 * 16 + r / 4) / 16 = q := by omega
  have hr' : (q % 16 * 16 + r / 4) % 16 * 4 + (r % 4 * 64 + s) / 64 = r := by omega
  have hs' : (r % 4 * 64 + s) % 64 = s := by omega
  simp only [encodeChars, UInt8.toNat_ofNat', Nat.reducePow, hfirst, hsecond, hthird, hp', hq', hr',
    hs']

theorem encodeChars_three {p q r : Nat} (hp : p < 64) (hq : q < 64) (hr : r < 64)
    (hunused : r % 4 = 0) :
    encodeChars alphabet written [UInt8.ofNat (p * 4 + q / 16), UInt8.ofNat (q % 16 * 16 + r / 4)] =
      alphabet.digit p :: alphabet.digit q :: alphabet.digit r :: written := by
  have hfirst : (p * 4 + q / 16) % 256 = p * 4 + q / 16 := by omega
  have hsecond : (q % 16 * 16 + r / 4) % 256 = q % 16 * 16 + r / 4 := by omega
  have hp' : (p * 4 + q / 16) / 4 = p := by omega
  have hq' : (p * 4 + q / 16) % 4 * 16 + (q % 16 * 16 + r / 4) / 16 = q := by omega
  have hr' : (q % 16 * 16 + r / 4) % 16 * 4 = r := by omega
  simp only [encodeChars, UInt8.toNat_ofNat', Nat.reducePow, hfirst, hsecond, hp', hq', hr']

theorem encodeChars_two {p q : Nat} (hp : p < 64) (hq : q < 64) (hunused : q % 16 = 0) :
    encodeChars alphabet written [UInt8.ofNat (p * 4 + q / 16)] =
      alphabet.digit p :: alphabet.digit q :: (written ++ written) := by
  have hfirst : (p * 4 + q / 16) % 256 = p * 4 + q / 16 := by omega
  have hp' : (p * 4 + q / 16) / 4 = p := by omega
  have hq' : (p * 4 + q / 16) % 4 * 16 = q := by omega
  simp only [encodeChars, UInt8.toNat_ofNat', Nat.reducePow, hfirst, hp', hq']

theorem map_digit_of_values {chars : List Char} {values : List Nat}
    (h : List.Forall₂ (fun c v => alphabet.value? c = some v) chars values) :
    (∀ v ∈ values, v < 64) ∧ values.map alphabet.digit = chars := by
  induction h with
  | nil => simp
  | cons hfirst hrest ih =>
    obtain ⟨hv, hc⟩ := Alphabet.digit_of_value? hfirst
    exact ⟨List.forall_mem_cons.2 ⟨hv, ih.1⟩, by rw [List.map_cons, hc, ih.2]⟩

/-- The digits of a last group are written for its octets. -/
theorem encodeChars_of_decodeLast {group : List Char} (h : decodeLast alphabet fill group = some octets) :
    encodeChars alphabet [] octets = group.takeWhile (· ≠ '=') := by
  simp only [decodeLast] at h
  split at h
  · cases h
  · obtain ⟨values, hvalues, h⟩ := Option.bind_eq_some_iff.1 h
    obtain ⟨hsmall, hgroup⟩ := map_digit_of_values (mapM_eq_some_iff.1 hvalues)
    rw [← hgroup]
    split at h
    · split at h
      · rename_i hunused
        cases h
        simp only [List.forall_mem_cons] at hsmall
        rw [encodeChars_two hsmall.1 hsmall.2.1 hunused]
        rfl
      · cases h
    · split at h
      · rename_i hunused
        cases h
        simp only [List.forall_mem_cons] at hsmall
        rw [encodeChars_three hsmall.1 hsmall.2.1 hsmall.2.2.1 hunused]
        rfl
      · cases h
    · cases h
      simp only [List.forall_mem_cons] at hsmall
      rw [encodeChars_group hsmall.1 hsmall.2.1 hsmall.2.2.1 hsmall.2.2.2.1]
      rfl
    · cases h

/-- A last group is the digits of its octets and an allowed fill. -/
theorem eq_of_decodeLast {group : List Char} (hshort : group.length ≤ 4)
    (h : decodeLast alphabet fill group = some octets) :
    ∃ count, fill.Allows octets.length count ∧
      group = encodeChars alphabet [] octets ++ List.replicate count '=' := by
  obtain ⟨hrest, hlength, hone, hthree⟩ := decodeLast_eq_some h
  have hsplit := List.takeWhile_append_dropWhile (p := (· ≠ '=')) (l := group)
  have hsum := congrArg List.length hsplit
  rw [List.length_append, hlength] at hsum
  refine ⟨(group.dropWhile (· ≠ '=')).length, ?_, ?_⟩
  · cases fill with
    | required =>
      have hfull : group.length = 4 := by
        simp only [decodeLast] at h
        split at h
        · cases h
        · rename_i hfill
          simp only [Bool.or_eq_true, decide_true, Bool.true_and, decide_eq_true_eq, not_or,
            not_not] at hfill
          exact hfill.2
      rw [Fill.Allows, missing]
      omega
    | optional =>
      rw [Fill.Allows, missing]
      omega
  · rw [encodeChars_of_decodeLast h, ← List.eq_replicate_of_mem hrest, hsplit]

theorem exists_of_four_lt_length {group : List Char} (h : 4 < group.length) :
    ∃ a b c d e rest, group = a :: b :: c :: d :: e :: rest := by
  rcases group with _ | ⟨a, _ | ⟨b, _ | ⟨c, _ | ⟨d, _ | ⟨e, rest⟩⟩⟩⟩⟩
  case cons.cons.cons.cons.cons => exact ⟨a, b, c, d, e, rest, rfl⟩
  all_goals simp at h

/-- **Exactly what is read.** A text is read as some octets when it is their digits with an allowed
fill behind them. -/
theorem decodeChars_eq_some_iff (faithful : alphabet.Faithful) {chars : List Char} :
    decodeChars alphabet fill chars = some octets ↔
      ∃ count, fill.Allows octets.length count ∧
        chars = encodeChars alphabet [] octets ++ List.replicate count '=' := by
  constructor
  · intro h
    fun_induction decodeChars alphabet fill chars generalizing octets with
    | case1 =>
      cases h
      refine ⟨0, ?_, rfl⟩
      cases fill with
      | required => rfl
      | optional => exact Nat.zero_le _
    | case2 a b c d e rest ih =>
      obtain ⟨p, hp, h⟩ := Option.bind_eq_some_iff.1 h
      obtain ⟨q, hq, h⟩ := Option.bind_eq_some_iff.1 h
      obtain ⟨r, hr, h⟩ := Option.bind_eq_some_iff.1 h
      obtain ⟨s, hs, h⟩ := Option.bind_eq_some_iff.1 h
      obtain ⟨more, hmore, h⟩ := Option.bind_eq_some_iff.1 h
      cases h
      obtain ⟨count, hallows, hchars⟩ := ih hmore
      obtain ⟨hp64, hpa⟩ := Alphabet.digit_of_value? hp
      obtain ⟨hq64, hqb⟩ := Alphabet.digit_of_value? hq
      obtain ⟨hr64, hrc⟩ := Alphabet.digit_of_value? hr
      obtain ⟨hs64, hsd⟩ := Alphabet.digit_of_value? hs
      refine ⟨count, Fill.allows_add_three.2 hallows, ?_⟩
      rw [encodeChars_group hp64 hq64 hr64 hs64, hpa, hqb, hrc, hsd, hchars]
      rfl
    | case3 group hlast hmore =>
      refine eq_of_decodeLast (Nat.not_lt.1 fun hlong => ?_) h
      obtain ⟨a, b, c, d, e, rest, rfl⟩ := exists_of_four_lt_length hlong
      exact hmore a b c d e rest rfl
  · rintro ⟨count, hallows, rfl⟩
    exact decodeChars_filled faithful hallows

/-! ## One text for some octets -/

/-- With fill the last group is written in full. -/
theorem encodeChars_filled :
    encodeChars alphabet ['='] octets =
      encodeChars alphabet [] octets ++ List.replicate (missing octets.length) '=' := by
  fun_induction encodeChars alphabet [] octets with
  | case1 a b c rest a' b' c' ih =>
    rw [encodeChars, ih, List.length_cons, List.length_cons, List.length_cons, missing_add_three]
    rfl
  | case2 a b a' b' => rfl
  | case3 a a' => rfl
  | case4 => rfl

/-- Four characters are written for every three octets, and for what is left of them. -/
theorem length_encodeChars_filled :
    (encodeChars alphabet ['='] octets).length = (octets.length + 2) / 3 * 4 := by
  fun_induction encodeChars alphabet ['='] octets with
  | case1 a b c rest a' b' c' ih =>
    simp only [List.length_cons, ih]
    omega
  | case2 a b a' b' => simp
  | case3 a a' => simp
  | case4 => rfl

/-- **Standard base64.** Octets are read from one text only, the one that is written for them. -/
theorem decode?_eq_some_iff {text : String} : decode? text = some octets ↔ text = encode octets := by
  constructor
  · intro h
    obtain ⟨count, rfl, hchars⟩ := (decodeChars_eq_some_iff standard_faithful).1 h
    apply String.toList_inj.1
    rw [hchars, encode, String.toList_ofList, encodeChars_filled]
  · rintro rfl
    exact decode?_encode octets

end FederatedAccess.Base64
