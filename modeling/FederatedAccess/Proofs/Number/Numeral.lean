import FederatedAccess.Number.Numeral

/-!
# Decimal digits of a number

The digits of a number are digits, stand for the number, and do not start with a needless zero
(`digits_isNumeral`). This is all that a reader of decimal text demands of them. The texts of
different numbers are different, with a sign (`intChars_injective`) or without (`ofNat_injective`).
The reader of signed words takes any digits behind a sign of either kind, as long as the integer fits
(`int64?_eq_some_iff`).
-/

namespace FederatedAccess.Numeral

/-- The digits `ds` write the number `n`. -/
structure IsNumeral (ds : List Nat) (n : Nat) : Prop where
  /-- They stand for the number. -/
  value : ofDigits ds = n
  /-- They are decimal digits. -/
  small : ∀ d ∈ ds, d < 10
  /-- There is one at least. -/
  nonempty : ds ≠ []
  /-- A zero comes first only when it stands alone. -/
  leading : ds.head? = some 0 → ds = [0]

theorem ofDigits_append (xs : List Nat) (d : Nat) :
    ofDigits (xs ++ [d]) = ofDigits xs * 10 + d := by
  rw [ofDigits, List.foldl_append]
  rfl

/-- Digits that follow a number make it no smaller. -/
theorem le_foldl_digits (ds : List Nat) (start : Nat) :
    start ≤ ds.foldl (fun n d => n * 10 + d) start := by
  induction ds generalizing start with
  | nil => exact Nat.le_refl start
  | cons d rest ih => exact Nat.le_trans (by omega) (ih (start * 10 + d))

/-- The digits of a quotient by ten, and the remainder after them. -/
theorem IsNumeral.snoc {ds : List Nat} {n : Nat} (h : IsNumeral ds (n / 10)) (hn : 10 ≤ n) :
    IsNumeral (ds ++ [n % 10]) n := by
  refine ⟨?_, ?_, by simp, ?_⟩
  · rw [ofDigits_append, h.value]
    omega
  · intro d hd
    rcases List.mem_append.1 hd with hd | hd
    · exact h.small d hd
    · rw [List.mem_singleton.1 hd]
      omega
  · intro hzero
    obtain ⟨d, rest, rfl⟩ := List.exists_cons_of_ne_nil h.nonempty
    -- the quotient is not zero, so its digits do not start with one
    have hvalue := h.value
    rw [h.leading hzero] at hvalue
    have : n / 10 = 0 := hvalue.symm
    omega

theorem digitsOnto_isNumeral {fuel n : Nat} (h : n < fuel) (rest : List Nat) :
    ∃ ds, digitsOnto fuel n rest = ds ++ rest ∧ IsNumeral ds n := by
  induction fuel generalizing n rest with
  | zero => omega
  | succ fuel ih =>
    rw [digitsOnto]
    by_cases hn : n < 10
    · rw [if_pos hn]
      refine ⟨[n], rfl, ⟨by simp [ofDigits], by simpa using hn, by simp, ?_⟩⟩
      intro hzero
      rw [List.head?_cons, Option.some.injEq] at hzero
      rw [hzero]
    · rw [if_neg hn]
      obtain ⟨ds, hds, hnumeral⟩ := ih (n := n / 10) (by omega) (n % 10 :: rest)
      exact ⟨ds ++ [n % 10], by rw [hds]; simp, hnumeral.snoc (by omega)⟩

/-- **Digits.** The digits of a number write it. -/
theorem digits_isNumeral (n : Nat) : IsNumeral (digits n) n := by
  obtain ⟨ds, hds, hnumeral⟩ := digitsOnto_isNumeral (Nat.lt_succ_self n) []
  rw [digits, hds, List.append_nil]
  exact hnumeral

/-! ## As characters -/

theorem toNat_digitChar {d : Nat} (h : d < 10) : (digitChar d).toNat = d + 48 := by
  have hvalid : (d + 48).isValidChar := Or.inl (by omega)
  rw [digitChar, Char.ofNat, dif_pos hvalid]
  rfl

theorem isDigit_digitChar {d : Nat} (h : d < 10) : isDigit (digitChar d) = true := by
  have hall : ∀ d < 10, isDigit (digitChar d) = true := by decide
  exact hall d h

theorem digitValue_digitChar {d : Nat} (h : d < 10) : digitValue (digitChar d) = d := by
  rw [digitValue, toNat_digitChar h, Nat.add_sub_cancel]

theorem map_digitValue_digitChar {ds : List Nat} (h : ∀ d ∈ ds, d < 10) :
    (ds.map digitChar).map digitValue = ds := by
  rw [List.map_map]
  exact (List.map_congr_left fun d hd => digitValue_digitChar (h d hd)).trans (List.map_id ds)

/-- The digits of a number can be told from its text. -/
theorem map_digitChar_injective {xs ys : List Nat} (hx : ∀ d ∈ xs, d < 10) (hy : ∀ d ∈ ys, d < 10)
    (h : xs.map digitChar = ys.map digitChar) : xs = ys := by
  rw [← map_digitValue_digitChar hx, h, map_digitValue_digitChar hy]

/-- **Different numbers have different texts.** -/
theorem ofNat_injective {m n : Nat} (h : ofNat m = ofNat n) : m = n := by
  have hchars : natChars m = natChars n := String.ofList_injective h
  have hm := digits_isNumeral m
  have hn := digits_isNumeral n
  rw [← hm.value, ← hn.value, map_digitChar_injective hm.small hn.small hchars]

theorem natChars_injective {m n : Nat} (h : natChars m = natChars n) : m = n :=
  ofNat_injective (congrArg String.ofList h)

/-! ## Integers -/

theorem mem_natChars {n : Nat} {c : Char} (h : c ∈ natChars n) : ∃ d < 10, c = digitChar d := by
  obtain ⟨d, hd, rfl⟩ := List.mem_map.1 h
  exact ⟨d, (digits_isNumeral n).small d hd, rfl⟩

theorem mem_intChars {i : Int} {c : Char} (h : c ∈ intChars i) :
    c = '-' ∨ ∃ d < 10, c = digitChar d := by
  unfold intChars at h
  split at h
  · rcases List.mem_cons.1 h with h | h
    · exact Or.inl h
    · exact Or.inr (mem_natChars h)
  · exact Or.inr (mem_natChars h)

/-- No number starts with a sign. -/
theorem natChars_ne_sign_cons (n : Nat) (rest : List Char) : natChars n ≠ '-' :: rest := by
  intro h
  obtain ⟨d, hd, hsign⟩ := mem_natChars (n := n) (c := '-') (h ▸ List.mem_cons_self)
  have hdigits : ∀ d < 10, '-' ≠ digitChar d := by decide
  exact hdigits d hd hsign

/-- **Different integers have different texts.** -/
theorem intChars_injective {i j : Int} (h : intChars i = intChars j) : i = j := by
  unfold intChars at h
  split at h <;> split at h
  · have habs := natChars_injective (List.cons.inj h).2
    omega
  · exact absurd h.symm (natChars_ne_sign_cons _ _)
  · exact absurd h (natChars_ne_sign_cons _ _)
  · have habs := natChars_injective h
    omega

theorem ofInt_injective {i j : Int} (h : ofInt i = ofInt j) : i = j :=
  intChars_injective (String.ofList_injective h)

/-! ## Reading integers -/

/-- What may stand in front of the digits of an integer. -/
inductive Sign
  | none | plus | minus
deriving DecidableEq

def Sign.chars : Sign → List Char
  | none => []
  | plus => ['+']
  | minus => ['-']

def Sign.apply : Sign → Int → Int
  | minus, i => -i
  | _, i => i

/-- The text is one or more digits behind an optional sign, and stands for the integer. -/
def Writes (chars : List Char) (i : Int) : Prop :=
  ∃ (sign : Sign) (ds : List Nat), chars = sign.chars ++ ds.map digitChar ∧ ds ≠ [] ∧
    (∀ d ∈ ds, d < 10) ∧ sign.apply (ofDigits ds) = i

theorem digitChar_digitValue {c : Char} (h : isDigit c = true) :
    digitValue c < 10 ∧ digitChar (digitValue c) = c := by
  obtain ⟨hlow, hhigh⟩ := Bool.and_eq_true_iff.1 h
  have hlow' : 48 ≤ c.toNat := UInt32.le_iff_toNat_le.1 (of_decide_eq_true hlow)
  have hhigh' : c.toNat ≤ 57 := UInt32.le_iff_toNat_le.1 (of_decide_eq_true hhigh)
  rw [digitValue, digitChar, Nat.sub_add_cancel hlow', Char.ofNat_toNat]
  exact ⟨by omega, rfl⟩

theorem nat?_eq_some_iff {chars : List Char} {n : Nat} :
    nat? chars = some n ↔
      ∃ ds, chars = ds.map digitChar ∧ ds ≠ [] ∧ (∀ d ∈ ds, d < 10) ∧ ofDigits ds = n := by
  unfold nat?
  constructor
  · intro h
    split at h
    · cases h
    · rename_i hdigits
      rw [Bool.not_eq_true', not_or, Bool.not_eq_false, List.all_eq_true] at hdigits
      obtain ⟨hsome, hall⟩ := hdigits
      refine ⟨chars.map digitValue, ?_, by simpa using hsome, ?_, Option.some.inj h⟩
      · rw [List.map_map]
        exact ((List.map_congr_left fun c hc => (digitChar_digitValue (hall c hc)).2).trans
          (List.map_id chars)).symm
      · intro d hd
        obtain ⟨c, hc, rfl⟩ := List.mem_map.1 hd
        exact (digitChar_digitValue (hall c hc)).1
  · rintro ⟨ds, rfl, hsome, hsmall, rfl⟩
    have hall : (ds.map digitChar).all isDigit = true := by
      rw [List.all_map, List.all_eq_true]
      exact fun d hd => isDigit_digitChar (hsmall d hd)
    rw [if_neg (by simp [hsome, hall]), map_digitValue_digitChar hsmall]

/-- The integer behind an optional sign, before it is known to fit. -/
def signed? (chars : List Char) : Option Int :=
  match chars with
  | '+' :: rest => (nat? rest).map Int.ofNat
  | '-' :: rest => (nat? rest).map fun n => -Int.ofNat n
  | _ => (nat? chars).map Int.ofNat

theorem signed?_eq_some_iff {chars : List Char} {i : Int} :
    signed? chars = some i ↔ Writes chars i := by
  have hsigns : ∀ d < 10, digitChar d ≠ '+' ∧ digitChar d ≠ '-' := by decide
  constructor
  · intro h
    unfold signed? at h
    split at h
    · obtain ⟨n, hn, rfl⟩ := Option.map_eq_some_iff.1 h
      obtain ⟨ds, rfl, hsome, hsmall, rfl⟩ := nat?_eq_some_iff.1 hn
      exact ⟨.plus, ds, rfl, hsome, hsmall, rfl⟩
    · obtain ⟨n, hn, rfl⟩ := Option.map_eq_some_iff.1 h
      obtain ⟨ds, rfl, hsome, hsmall, rfl⟩ := nat?_eq_some_iff.1 hn
      exact ⟨.minus, ds, rfl, hsome, hsmall, rfl⟩
    · obtain ⟨n, hn, rfl⟩ := Option.map_eq_some_iff.1 h
      obtain ⟨ds, rfl, hsome, hsmall, rfl⟩ := nat?_eq_some_iff.1 hn
      exact ⟨.none, ds, rfl, hsome, hsmall, rfl⟩
  · rintro ⟨sign, ds, rfl, hsome, hsmall, rfl⟩
    have hread := nat?_eq_some_iff.2 ⟨ds, rfl, hsome, hsmall, rfl⟩
    cases sign with
    | plus => exact Option.map_eq_some_iff.2 ⟨_, hread, rfl⟩
    | minus => exact Option.map_eq_some_iff.2 ⟨_, hread, rfl⟩
    | none =>
      obtain ⟨d, rest, rfl⟩ := List.exists_cons_of_ne_nil hsome
      obtain ⟨hplus, hminus⟩ := hsigns d (hsmall d List.mem_cons_self)
      unfold signed?
      rw [Sign.chars, List.nil_append]
      split
      · rename_i heq
        exact absurd (List.cons.inj heq).1 hplus
      · rename_i heq
        exact absurd (List.cons.inj heq).1 hminus
      · exact Option.map_eq_some_iff.2 ⟨_, hread, rfl⟩

/-- **Integers.** A text is read as a signed word when it writes the word's integer. -/
theorem int64?_eq_some_iff {chars : List Char} {t : Int64} :
    int64? chars = some t ↔ Writes chars t.toInt := by
  have hint64? : int64? chars = (signed? chars).bind fun i =>
      if Int64.minValue.toInt ≤ i ∧ i ≤ Int64.maxValue.toInt then some (Int64.ofInt i) else none := by
    unfold int64?
    split
    · rfl
    · rfl
    · rename_i hplus hminus
      have hsigned : signed? chars = (nat? chars).map Int.ofNat := by
        unfold signed?
        split
        · exact (hplus _ rfl).elim
        · exact (hminus _ rfl).elim
        · rfl
      rw [hsigned]
      rfl
  rw [hint64?, ← signed?_eq_some_iff]
  constructor
  · intro h
    obtain ⟨i, hi, h⟩ := Option.bind_eq_some_iff.1 h
    split at h
    · rename_i hfits
      obtain rfl := Option.some.inj h
      rw [hi, Int64.toInt_ofInt_of_le hfits.1 (Int.lt_of_le_of_lt hfits.2 (by decide))]
    · cases h
  · intro h
    rw [h, Option.bind_some, if_pos ⟨t.minValue_le_toInt, t.toInt_le⟩, Int64.ofInt_toInt]

end FederatedAccess.Numeral
