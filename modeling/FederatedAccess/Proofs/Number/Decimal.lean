import FederatedAccess.Number.Decimal
import FederatedAccess.Proofs.Number.Numeral

/-!
# Decimal numbers read back

The text of a decimal is read as this decimal, with the same number of places (`ofText?_text`). The
reader keeps the number that the digits so far stand for; as long as the number of all digits has
room, so has every number on the way.
-/

namespace FederatedAccess.Decimal

open Numeral (digitChar isDigit ofDigits digits_isNumeral isDigit_digitChar digitValue_digitChar
  le_foldl_digits)

variable {ds : List Nat} {d mantissa scale : Nat} {point seen : Bool} {rest : List Char}

/-! ## Digits -/

/-- **One digit.** A digit for which there is room is taken in. -/
theorem readChars_digit (h : d < 10) (hplaces : ¬ (point = true ∧ scale = mostPlaces))
    (hfits : mantissa * 10 + d < limit) :
    readChars point seen mantissa scale (digitChar d :: rest) =
      readChars point true (mantissa * 10 + d) (if point then scale + 1 else scale) rest := by
  rw [readChars, if_neg hplaces, if_pos (isDigit_digitChar h), digitValue_digitChar h, if_pos hfits]

/-- Digits before the point. -/
theorem readChars_whole (hsmall : ∀ d ∈ ds, d < 10)
    (hfits : ds.foldl (fun n d => n * 10 + d) mantissa < limit) :
    readChars false true mantissa scale (ds.map digitChar ++ rest) =
      readChars false true (ds.foldl (fun n d => n * 10 + d) mantissa) scale rest := by
  induction ds generalizing mantissa with
  | nil => rfl
  | cons d more ih =>
    obtain ⟨hd, hmore⟩ := List.forall_mem_cons.1 hsmall
    have hroom : mantissa * 10 + d < limit := Nat.lt_of_le_of_lt (le_foldl_digits more _) hfits
    rw [List.map_cons, List.cons_append, readChars_digit hd (by simp) hroom]
    exact ih hmore hfits

/-- Digits after the point, up to the end. -/
theorem readChars_places (hsmall : ∀ d ∈ ds, d < 10)
    (hfits : ds.foldl (fun n d => n * 10 + d) mantissa < limit)
    (hplaces : scale + ds.length ≤ mostPlaces) :
    readChars true true mantissa scale (ds.map digitChar) =
      some (ds.foldl (fun n d => n * 10 + d) mantissa, scale + ds.length) := by
  induction ds generalizing mantissa scale with
  | nil => rfl
  | cons d more ih =>
    obtain ⟨hd, hmore⟩ := List.forall_mem_cons.1 hsmall
    have hroom : mantissa * 10 + d < limit := Nat.lt_of_le_of_lt (le_foldl_digits more _) hfits
    rw [List.length_cons] at hplaces
    have hspare : ¬ (true = true ∧ scale = mostPlaces) := by omega
    rw [List.map_cons, readChars_digit hd hspare hroom, if_pos rfl, ih hmore hfits (by omega),
      List.foldl_cons, List.length_cons]
    congr 2
    omega

/-- The point, once. -/
theorem readChars_point :
    readChars false seen mantissa scale ('.' :: rest) = readChars true seen mantissa scale rest := by
  rw [readChars.eq_def]
  simp [isDigit]

/-! ## The text of a decimal -/

/-- The digits before and after the point: at least one before it, and all places after it. -/
structure Splits (n scale : Nat) (whole places : List Nat) : Prop where
  value : ofDigits (whole ++ places) = n
  whole_small : ∀ d ∈ whole, d < 10
  places_small : ∀ d ∈ places, d < 10
  whole_nonempty : whole ≠ []
  length_places : places.length = scale

theorem ofDigits_replicate_append (count : Nat) (ds : List Nat) :
    ofDigits (List.replicate count 0 ++ ds) = ofDigits ds := by
  induction count with
  | zero => rfl
  | succ count ih =>
    rw [List.replicate_succ, List.cons_append, ← ih]
    rfl

/-- How a decimal is written: its digits, with zeros in front if they do not reach the point. -/
theorem exists_splits (d : Decimal) :
    ∃ whole places, Splits d.mantissa.natAbs d.scale whole places ∧
      d.magnitudeChars = whole.map digitChar ++
        if d.scale = 0 then [] else '.' :: places.map digitChar := by
  have hdigits := digits_isNumeral d.mantissa.natAbs
  let zeros := List.replicate (d.scale + 1 - (Numeral.digits d.mantissa.natAbs).length) 0
  let padded := zeros ++ Numeral.digits d.mantissa.natAbs
  have hlength : d.scale + 1 ≤ padded.length := by
    simp only [padded, zeros, List.length_append, List.length_replicate]
    omega
  have hsmall : ∀ digit ∈ padded, digit < 10 := by
    intro digit hdigit
    rcases List.mem_append.1 hdigit with hzero | hdigit
    · rw [List.eq_of_mem_replicate hzero]
      decide
    · exact hdigits.small digit hdigit
  refine ⟨padded.take (padded.length - d.scale), padded.drop (padded.length - d.scale),
    ⟨?_, ?_, ?_, ?_, ?_⟩, ?_⟩
  · rw [List.take_append_drop, ofDigits_replicate_append, hdigits.value]
  · exact fun digit hdigit => hsmall digit (List.mem_of_mem_take hdigit)
  · exact fun digit hdigit => hsmall digit (List.mem_of_mem_drop hdigit)
  · apply List.ne_nil_of_length_pos
    rw [List.length_take]
    omega
  · rw [List.length_drop]
    omega
  · have hpadded : List.replicate (d.scale + 1 - (Numeral.natChars d.mantissa.natAbs).length) '0' ++
        Numeral.natChars d.mantissa.natAbs = padded.map digitChar := by
      simp only [padded, zeros, List.map_append, List.map_replicate, Numeral.natChars,
        List.length_map]
      rfl
    unfold magnitudeChars
    simp only [hpadded, List.length_map, List.map_take, List.map_drop]
    split
    · rw [List.append_nil]
    · rfl

/-- Digits with a point among them are read as their mantissa and their places. -/
theorem Splits.readChars {n : Nat} {whole places : List Nat} (h : Splits n scale whole places)
    (hfits : n < limit) (hscale : scale ≤ mostPlaces) :
    readChars false false 0 0 (whole.map digitChar ++
      if scale = 0 then [] else '.' :: places.map digitChar) = some (n, scale) := by
  obtain ⟨first, more, rfl⟩ := List.exists_cons_of_ne_nil h.whole_nonempty
  obtain ⟨hfirst, hmore⟩ := List.forall_mem_cons.1 h.whole_small
  have hvalue : places.foldl (fun n d => n * 10 + d)
      (more.foldl (fun n d => n * 10 + d) first) = n := by
    have h' := h.value
    simp only [ofDigits, List.cons_append, List.foldl_cons, List.foldl_append, Nat.zero_mul,
      Nat.zero_add] at h'
    exact h'
  have hwhole : more.foldl (fun n d => n * 10 + d) first < limit :=
    Nat.lt_of_le_of_lt (le_foldl_digits places _) (hvalue ▸ hfits)
  have hone : first < limit := Nat.lt_of_le_of_lt (le_foldl_digits more _) hwhole
  rw [List.map_cons, List.cons_append, readChars_digit hfirst (by simp) (by simpa using hone),
    readChars_whole hmore (by simpa using hwhole)]
  simp only [Nat.zero_mul, Nat.zero_add, Bool.false_eq_true, if_false]
  split
  · rename_i hzero
    obtain rfl : places = [] := List.length_eq_zero_iff.1 (h.length_places.trans hzero)
    rw [Decimal.readChars, if_pos rfl, hzero]
    exact congrArg (fun m => some (m, 0)) hvalue
  · have hplaces : 0 + places.length ≤ mostPlaces := by
      rw [h.length_places]
      omega
    rw [readChars_point, readChars_places h.places_small (hvalue.symm ▸ hfits) hplaces, hvalue,
      h.length_places, Nat.zero_add]

theorem ofParts?_self (d : Decimal) : ofParts? d.mantissa d.scale = some d :=
  dif_pos ⟨d.fits, d.scale_le⟩

/-- No sign stands in front of digits. -/
theorem ofPlainChars?_unsigned {first : Nat} (h : first < 10) :
    ofPlainChars? (digitChar first :: rest) =
      (readChars false false 0 0 (digitChar first :: rest)).bind fun found =>
        ofParts? found.1 found.2 := by
  have hsigns : ∀ digit < 10, digitChar digit ≠ '-' ∧ digitChar digit ≠ '+' := by decide
  obtain ⟨hminus, hplus⟩ := hsigns first h
  unfold ofPlainChars?
  split
  rename_i negative after heq
  split at heq
  · rename_i hsign
    exact absurd (List.cons.inj hsign).1 hminus
  · rename_i hsign
    exact absurd (List.cons.inj hsign).1 hplus
  · cases heq
    rfl

theorem ofPlainChars?_minus :
    ofPlainChars? ('-' :: rest) =
      (readChars false false 0 0 rest).bind fun found => ofParts? (-(found.1 : Int)) found.2 :=
  rfl

/-- **Decimals.** The text of a decimal is read as this decimal, to the last place. -/
theorem ofText?_text (d : Decimal) : ofText? d.text = some d := by
  obtain ⟨whole, places, hsplits, hchars⟩ := d.exists_splits
  have hread := hsplits.readChars d.fits d.scale_le
  rw [← hchars] at hread
  have hplain : ofPlainChars? d.text.toList = some d := by
    unfold text
    rw [String.toList_ofList]
    split
    · rename_i hneg
      have hsign : -(d.mantissa.natAbs : Int) = d.mantissa := by omega
      rw [ofPlainChars?_minus, hread, Option.bind_some, hsign, ofParts?_self]
    · rename_i hneg
      have hsign : (d.mantissa.natAbs : Int) = d.mantissa := by omega
      obtain ⟨first, more, rfl⟩ := List.exists_cons_of_ne_nil hsplits.whole_nonempty
      rw [List.map_cons, List.cons_append] at hchars
      rw [hchars, ofPlainChars?_unsigned (hsplits.whole_small first List.mem_cons_self), ← hchars,
        hread, Option.bind_some, hsign, ofParts?_self]
  rw [ofText?, hplain]
  rfl

end FederatedAccess.Decimal
