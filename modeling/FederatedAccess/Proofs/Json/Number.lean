import FederatedAccess.Json.Draft
import FederatedAccess.Proofs.Number.Numeral
import FederatedAccess.Proofs.Text.Utf8

/-!
# Integers in JSON read back

The decimal text of an integer of 64 bits is read as this integer, whatever follows it that cannot
carry a number on (`numeral?_intChars`).
-/

namespace FederatedAccess.Json

/-- The signed word that equals an integer, when there is one. -/
theorem Integer.int64?_eq_some_iff {i : Integer} {t : Int64} :
    i.int64? = some t ↔ i.val = t.toInt := by
  constructor
  · intro h
    rw [int64?] at h
    split at h
    · rename_i hlt
      cases h
      exact (Int64.toInt_ofInt_of_le i.fits.1 hlt).symm
    · cases h
  · intro h
    have hlt : i.val < 0x8000000000000000 := h ▸ t.toInt_lt
    rw [int64?, if_pos hlt, h, Int64.ofInt_toInt]

/-- A signed word is among the integers and read as this word. -/
theorem Integer.int64?_ofInt64 (s : Int64) : (ofInt64 s).int64? = some s :=
  int64?_eq_some_iff.2 rfl

namespace Draft

open Utf8 (encodeChars encodeChars_cons_ascii)
open FederatedAccess.Numeral (IsNumeral le_foldl_digits)

/-- What follows a number: nothing that could be a part of it. -/
def EndsNumber (rest : List UInt8) : Prop :=
  ∀ b ∈ rest.head?, isDigit b = false ∧ b ≠ 0x2E ∧ b ≠ 0x65 ∧ b ≠ 0x45

theorem endsNumber_nil : EndsNumber [] := by
  intro b hb
  cases hb

/-! ## Digits -/

theorem encodeChars_digits {ds : List Nat} (h : ∀ d ∈ ds, d < 10) :
    encodeChars (ds.map FederatedAccess.Numeral.digitChar) =
      ds.map fun d => UInt8.ofNat (d + 0x30) := by
  induction ds with
  | nil => rfl
  | cons d rest ih =>
    obtain ⟨hd, hrest⟩ := List.forall_mem_cons.1 h
    have hchar := FederatedAccess.Numeral.toNat_digitChar hd
    rw [List.map_cons, List.map_cons, encodeChars_cons_ascii (by omega), ih hrest, hchar]

theorem toNat_digitOctet {d : Nat} (h : d < 10) : (UInt8.ofNat (d + 0x30)).toNat = d + 0x30 := by
  rw [UInt8.toNat_ofNat']
  omega

theorem isDigit_digitOctet {d : Nat} (h : d < 10) : isDigit (UInt8.ofNat (d + 0x30)) = true := by
  simp only [isDigit, Bool.and_eq_true, decide_eq_true_eq, UInt8.le_iff_toNat_le,
    toNat_digitOctet h, UInt8.reduceToNat]
  omega

theorem digits_append {ds : List Nat} (h : ∀ d ∈ ds, d < 10) {rest : List UInt8}
    (hrest : EndsNumber rest) :
    digits ((ds.map fun d => UInt8.ofNat (d + 0x30)) ++ rest) = (ds, rest) := by
  have hall : ∀ b ∈ ds.map (fun d => UInt8.ofNat (d + 0x30)), isDigit b = true := by
    intro b hb
    obtain ⟨d, hd, rfl⟩ := List.mem_map.1 hb
    exact isDigit_digitOctet (h d hd)
  have hvalues : (ds.map fun d => UInt8.ofNat (d + 0x30)).map (·.toNat - 0x30) = ds := by
    rw [List.map_map]
    refine (List.map_congr_left fun d hd => ?_).trans (List.map_id ds)
    show (UInt8.ofNat (d + 0x30)).toNat - 0x30 = d
    rw [toNat_digitOctet (h d hd), Nat.add_sub_cancel]
  -- what ends a number is no digit, so the reader takes exactly the digits that were written
  have hstop : rest.takeWhile isDigit = [] ∧ rest.dropWhile isDigit = rest := by
    cases rest with
    | nil => exact ⟨rfl, rfl⟩
    | cons b rest => simp [(hrest b rfl).1]
  rw [digits, List.takeWhile_append_of_pos hall, List.dropWhile_append_of_pos hall, hstop.1,
    hstop.2, List.append_nil, hvalues]

/-- The text of a natural number starts with a digit. -/
theorem encodeChars_natChars (n : Nat) :
    ∃ d < 10, ∃ more, encodeChars (FederatedAccess.Numeral.natChars n) =
      UInt8.ofNat (d + 0x30) :: more := by
  have hdigits := FederatedAccess.Numeral.digits_isNumeral n
  obtain ⟨d, ds, hds⟩ := List.exists_cons_of_ne_nil hdigits.nonempty
  refine ⟨d, hdigits.small d (hds ▸ List.mem_cons_self),
    ds.map fun d => UInt8.ofNat (d + 0x30), ?_⟩
  rw [FederatedAccess.Numeral.natChars, encodeChars_digits hdigits.small, hds, List.map_cons]

theorem digitOctet_ne {d : Nat} (h : d < 10) {b : UInt8} (hb : isDigit b = false) :
    UInt8.ofNat (d + 0x30) ≠ b := by
  intro he
  rw [← he, isDigit_digitOctet h] at hb
  cases hb

/-! ## Numbers -/

theorem fraction?_none {rest : List UInt8} (h : EndsNumber rest) :
    fraction? rest = some ([], rest) := by
  unfold fraction?
  split
  · exact absurd rfl (h 0x2E rfl).2.1
  · rfl

theorem exponent?_none {rest : List UInt8} (h : EndsNumber rest) :
    exponent? rest = some (none, rest) := by
  cases rest with
  | nil => rfl
  | cons b rest =>
    obtain ⟨-, -, hsmall, hlarge⟩ := h b rfl
    rw [exponent?.eq_def]
    simp only [hsmall, hlarge, or_self, if_false]

/-- Digits without sign are read as a number without fraction and exponent. -/
theorem magnitude?_digits {ds : List Nat} {n : Nat} (h : IsNumeral ds n) (negative : Bool)
    {rest : List UInt8} (hrest : EndsNumber rest) :
    magnitude? negative ((ds.map fun d => UInt8.ofNat (d + 0x30)) ++ rest) =
      some (⟨negative, ds, [], none⟩, rest) := by
  have hleading : ¬ (ds = [] ∨ (ds.head? = some 0 ∧ ds.length ≠ 1)) := by
    rintro (hnil | ⟨hzero, hlength⟩)
    · exact h.nonempty hnil
    · exact hlength (by rw [h.leading hzero]; rfl)
  rw [magnitude?, digits_append h.small hrest]
  simp only [hleading, if_false, fraction?_none hrest, exponent?_none hrest, bind, Option.bind]

/-! ## Values -/

/-- Digits whose number fits into a word are all taken in. -/
theorem absorb_eq {ds : List Nat} {start : Nat}
    (h : ds.foldl (fun n d => n * 10 + d) start < UInt64.size) :
    Numeral.absorb ds start = (ds.foldl (fun n d => n * 10 + d) start, []) := by
  induction ds generalizing start with
  | nil => rfl
  | cons d rest ih =>
    rw [List.foldl_cons] at h ⊢
    rw [Numeral.absorb, if_pos (Nat.lt_of_le_of_lt (le_foldl_digits rest _) h), ih h]

/-- A sign and a magnitude that make an integer in range. -/
theorem whole?_eq (i : Integer) :
    Numeral.whole? (decide (i.val < 0)) i.val.natAbs = some (.integer i) := by
  have hsigned : (if decide (i.val < 0) = true then -(i.val.natAbs : Int) else i.val.natAbs) =
      i.val := by
    simp only [decide_eq_true_eq]
    split <;> omega
  have hfits : Integer.ofInt? i.val = some i := dif_pos i.fits
  have hzero : ¬ (decide (i.val < 0) = true ∧ i.val.natAbs = 0) := by
    rw [decide_eq_true_eq]
    omega
  rw [Numeral.whole?, hsigned, hfits]
  simp only [hzero, if_false]

theorem value?_digits {ds : List Nat} {i : Integer} (h : IsNumeral ds i.val.natAbs) :
    (Numeral.mk (decide (i.val < 0)) ds [] none).value? = some (.integer i) := by
  have hfits : i.val.natAbs < UInt64.size := by
    have := i.fits
    simp only [UInt64.size]
    omega
  have habsorb : Numeral.absorb ds 0 = (i.val.natAbs, []) := by
    have hvalue : ds.foldl (fun n d => n * 10 + d) 0 = i.val.natAbs := h.value
    rw [absorb_eq (by rw [hvalue]; exact hfits), hvalue]
  rw [Numeral.value?]
  simp only [habsorb]
  exact whole?_eq i

/-- **Integers.** -/
theorem numeral?_intChars (i : Integer) {rest : List UInt8} (hrest : EndsNumber rest) :
    ∃ n, numeral? (encodeChars (FederatedAccess.Numeral.intChars i.val) ++ rest) = some (n, rest) ∧
      ofNumeral n = integer i := by
  have hdigits := FederatedAccess.Numeral.digits_isNumeral i.val.natAbs
  refine ⟨⟨decide (i.val < 0), FederatedAccess.Numeral.digits i.val.natAbs, [], none⟩, ?_, ?_⟩
  · rw [FederatedAccess.Numeral.intChars]
    by_cases hneg : i.val < 0
    · rw [if_pos hneg, decide_eq_true hneg, encodeChars_cons_ascii (by decide),
        FederatedAccess.Numeral.natChars, encodeChars_digits hdigits.small]
      exact magnitude?_digits hdigits true hrest
    · obtain ⟨d, hd, more, hfirst⟩ := encodeChars_natChars i.val.natAbs
      rw [if_neg hneg, decide_eq_false hneg, numeral?.eq_def]
      split
      -- a digit is no sign
      · rename_i heq
        rw [hfirst, List.cons_append, List.cons.injEq] at heq
        exact absurd heq.1 (digitOctet_ne hd rfl)
      · rw [FederatedAccess.Numeral.natChars, encodeChars_digits hdigits.small]
        exact magnitude?_digits hdigits false hrest
  · rw [ofNumeral, value?_digits hdigits]

end Draft

end FederatedAccess.Json
