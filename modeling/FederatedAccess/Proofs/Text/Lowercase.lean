import FederatedAccess.Text.Lowercase
import Mathlib.Data.List.Infix

/-!
# Lower case of parts

Lower-casing goes character by character, except for a capital sigma: whether it gets the final form
depends on what stands around it. So the lower-case form of a part of a text need not be a part of the
text's lower-case form. It is one, whatever stands before and after the part, as long as the part
settles the form of all its capital sigmas by itself. Where it does not, it is open at its end or at
its start, and then a single letter added there is enough to hide it
(`isPrefix_lowerFrom_iff`, `isSuffix_lowerFrom_iff`, `isInfix_lowerFrom_iff`).
-/

namespace FederatedAccess.Text

variable {xs ys before before' after after' : List Char}

/-! ## Neighbours that count -/

/-- None of the characters counts for case. -/
def Transparent (xs : List Char) : Prop :=
  ∀ c ∈ xs, caseIgnorablePoints.contains c = true

theorem facesCased_append_of_transparent (h : Transparent xs) :
    facesCased (xs ++ ys) = facesCased ys := by
  unfold facesCased
  rw [List.dropWhile_append_of_pos h]

theorem facesCased_of_transparent (h : Transparent xs) : facesCased xs = false := by
  rw [← List.append_nil xs, facesCased_append_of_transparent h]
  rfl

/-- The nearest character that counts is in the first part, if there is one at all. -/
theorem facesCased_append_of_not_transparent (h : ¬Transparent xs) :
    facesCased (xs ++ ys) = facesCased xs := by
  induction xs with
  | nil => exact absurd (fun c hc => absurd hc List.not_mem_nil) h
  | cons c rest ih =>
    by_cases hc : caseIgnorablePoints.contains c = true
    · have hrest : ¬Transparent rest := fun hrest => h (List.forall_mem_cons.2 ⟨hc, hrest⟩)
      have hone : Transparent [c] := by simpa [Transparent] using hc
      have hskip : ∀ zs, facesCased (c :: zs) = facesCased zs := fun zs =>
        facesCased_append_of_transparent hone
      rw [List.cons_append, hskip, hskip, ih hrest]
    · simp [facesCased, hc]

theorem transparent_reverse_iff : Transparent xs.reverse ↔ Transparent xs := by
  simp only [Transparent, List.mem_reverse]

/-! ## Lower case in a context -/

/-- Between such neighbours a capital sigma gets the final form. -/
def endsWord (before after : List Char) : Bool :=
  facesCased before && !facesCased after

/-- The lower-case form of a character between others; those before it come nearest first. -/
def lowerAt (before : List Char) (c : Char) (after : List Char) : List Char :=
  if c = 'Σ' then if endsWord before after then ['ς'] else ['σ'] else lowerChar c

/-- The lower-case form of a part of a text between its other parts. -/
def lowerWithin (before after : List Char) : List Char → List Char
  | [] => []
  | c :: rest => lowerAt before c (rest ++ after) ++ lowerWithin (c :: before) after rest

theorem lowerFrom_cons {c : Char} {rest : List Char} :
    lowerFrom before (c :: rest) = lowerAt before c rest ++ lowerFrom (c :: before) rest :=
  rfl

/-- **Parts.** The lower-case form of a text is put together from those of its parts, each in its
context. -/
theorem lowerFrom_append :
    lowerFrom before (xs ++ ys) =
      lowerWithin before ys xs ++ lowerFrom (xs.reverse ++ before) ys := by
  induction xs generalizing before with
  | nil => rfl
  | cons c rest ih =>
    rw [List.cons_append, lowerFrom_cons, ih, lowerWithin]
    simp

theorem lowerWithin_nil_right (before xs : List Char) :
    lowerWithin before [] xs = lowerFrom before xs := by
  have h : lowerFrom before (xs ++ []) =
      lowerWithin before [] xs ++ lowerFrom (xs.reverse ++ before) [] := lowerFrom_append
  rw [List.append_nil, lowerFrom, List.append_nil] at h
  exact h.symm

theorem length_lowerAt (c : Char) :
    (lowerAt before c after).length = (lowerAt before' c after').length := by
  unfold lowerAt
  split
  · split <;> split <;> rfl
  · rfl

/-- The context changes no lengths. -/
theorem length_lowerWithin :
    (lowerWithin before after xs).length = (lowerWithin before' after' xs).length := by
  induction xs generalizing before before' with
  | nil => rfl
  | cons c rest ih =>
    have hrest := @ih (c :: before) (c :: before')
    rw [lowerWithin, lowerWithin, List.length_append, List.length_append, hrest, length_lowerAt c]

theorem lowerAt_eq_iff {c : Char} :
    lowerAt before c after = lowerAt before' c after' ↔
      (c = 'Σ' → endsWord before after = endsWord before' after') := by
  unfold lowerAt
  by_cases hc : c = 'Σ'
  · rw [if_pos hc, if_pos hc]
    cases endsWord before after <;> cases endsWord before' after' <;> simp [hc]
  · simp [hc]

/-- Two contexts give a part the same form exactly when they agree about each of its capital
sigmas. -/
theorem lowerWithin_eq_iff :
    lowerWithin before after xs = lowerWithin before' after' xs ↔
      ∀ front back, xs = front ++ 'Σ' :: back →
        endsWord (front.reverse ++ before) (back ++ after) =
          endsWord (front.reverse ++ before') (back ++ after') := by
  induction xs generalizing before before' with
  | nil => simp [lowerWithin]
  | cons c rest ih =>
    have hparts : lowerWithin before after (c :: rest) = lowerWithin before' after' (c :: rest) ↔
        lowerAt before c (rest ++ after) = lowerAt before' c (rest ++ after') ∧
          lowerWithin (c :: before) after rest = lowerWithin (c :: before') after' rest := by
      constructor
      · intro h
        exact List.append_inj h (length_lowerAt c)
      · rintro ⟨hfirst, hrest⟩
        rw [lowerWithin, lowerWithin, hfirst, hrest]
    rw [hparts, lowerAt_eq_iff, ih]
    constructor
    · rintro ⟨hfirst, hrest⟩ front back hsplit
      cases front with
      | nil =>
        obtain ⟨rfl, rfl⟩ := List.cons.inj hsplit
        exact hfirst rfl
      | cons d front =>
        obtain ⟨rfl, rfl⟩ := List.cons.inj hsplit
        simpa using hrest front back rfl
    · intro hall
      constructor
      · rintro rfl
        exact hall [] rest rfl
      · rintro front back rfl
        simpa using hall (c :: front) back rfl

/-! ## Open ends -/

/-- A capital sigma after a letter, with nothing behind it that counts: what follows the text decides
about its form. -/
def OpenAtEnd (xs : List Char) : Prop :=
  ∃ front back, xs = front ++ 'Σ' :: back ∧ facesCased front.reverse = true ∧ Transparent back

/-- A capital sigma with nothing before it that counts and no letter behind it: what precedes the
text decides about its form. -/
def OpenAtStart (xs : List Char) : Prop :=
  ∃ front back, xs = front ++ 'Σ' :: back ∧ Transparent front ∧ facesCased back = false

/-- On a side that is not open, the context makes no difference. -/
theorem lowerWithin_eq_lowerFrom (hstart : before = [] ∨ ¬OpenAtStart xs)
    (hend : after = [] ∨ ¬OpenAtEnd xs) : lowerWithin before after xs = lowerFrom [] xs := by
  rw [← lowerWithin_nil_right, lowerWithin_eq_iff]
  intro front back hsplit
  rw [List.append_nil, List.append_nil]
  have hfront : Transparent front.reverse ↔ Transparent front := transparent_reverse_iff
  by_cases hf : Transparent front <;> by_cases hb : Transparent back
  · -- no letter on either side: open at the start, so nothing stands there
    obtain rfl : before = [] := hstart.resolve_right fun hclosed =>
      hclosed ⟨front, back, hsplit, hf, facesCased_of_transparent hb⟩
    rw [List.append_nil, endsWord, endsWord, facesCased_of_transparent (hfront.2 hf)]
    rfl
  · rw [endsWord, endsWord, facesCased_append_of_not_transparent hb,
      facesCased_append_of_transparent (hfront.2 hf), facesCased_of_transparent (hfront.2 hf)]
    rcases hstart with rfl | hclosed
    · rfl
    · have hletter : facesCased back = true := by
        by_contra hnone
        exact hclosed ⟨front, back, hsplit, hf, Bool.not_eq_true _ ▸ hnone⟩
      simp [hletter]
  · rw [endsWord, endsWord, facesCased_append_of_transparent hb, facesCased_of_transparent hb,
      facesCased_append_of_not_transparent (mt hfront.1 hf)]
    rcases hend with rfl | hclosed
    · rfl
    · have hnone : facesCased front.reverse = false := by
        by_contra hletter
        exact hclosed ⟨front, back, hsplit, by simpa using hletter, hb⟩
      simp [hnone]
  · rw [endsWord, endsWord, facesCased_append_of_not_transparent hb,
      facesCased_append_of_not_transparent (mt hfront.1 hf)]

/-! ## Letters that hide a part -/

theorem exists_letter (other : Option Char) :
    ∃ c, other ≠ some c ∧ c ≠ 'Σ' ∧ lowerChar c = [c] ∧ facesCased [c] = true := by
  by_cases h : other = some 'a'
  · refine ⟨'b', ?_, by decide, by decide, by decide +kernel⟩
    rw [h]
    decide
  · exact ⟨'a', h, by decide, by decide, by decide +kernel⟩

theorem facesCased_append_letter {c : Char} (h : facesCased [c] = true) (hxs : Transparent xs) :
    facesCased (xs ++ [c]) = true := by
  rw [facesCased_append_of_transparent hxs, h]

/-- What occurs in a list of one more member is all but its last or all but its first. -/
theorem eq_append_or_eq_cons {part whole : List Char} (h : part <:+: whole)
    (hlength : whole.length = part.length + 1) :
    (∃ c, whole = part ++ [c]) ∨ ∃ c, whole = c :: part := by
  obtain ⟨front, back, rfl⟩ := h
  simp only [List.length_append] at hlength
  cases front with
  | nil =>
    obtain ⟨c, rfl⟩ := List.length_eq_one_iff.1 (show back.length = 1 by
      simp only [List.length_nil] at hlength
      omega)
    exact Or.inl ⟨c, rfl⟩
  | cons d front =>
    simp only [List.length_cons] at hlength
    obtain rfl : front = [] := List.length_eq_zero_iff.1 (by omega)
    obtain rfl : back = [] := List.length_eq_zero_iff.1 (by omega)
    exact Or.inr ⟨d, by simp⟩

/-- **Open at the end.** Some letter behind the text hides it. -/
theorem exists_hidden_of_openAtEnd (h : OpenAtEnd xs) :
    ∃ ys, ¬lowerFrom [] xs <:+: lowerFrom [] (xs ++ ys) := by
  obtain ⟨c, hother, hsigma, hlower, hcased⟩ := exists_letter (lowerFrom [] xs).getLast?
  refine ⟨[c], fun hinfix => ?_⟩
  have hwhole : lowerFrom [] (xs ++ [c]) = lowerWithin [] [c] xs ++ [c] := by
    rw [lowerFrom_append, lowerFrom_cons, lowerAt, if_neg hsigma, hlower]
    rfl
  have hlength : (lowerWithin [] [c] xs).length = (lowerFrom [] xs).length := by
    rw [← lowerWithin_nil_right [] xs]
    exact length_lowerWithin
  -- the letter takes the final form from the sigma
  have hdiffer : lowerWithin [] [c] xs ≠ lowerFrom [] xs := by
    intro hsame
    obtain ⟨front, back, hsplit, hletter, hback⟩ := h
    rw [← lowerWithin_nil_right, lowerWithin_eq_iff] at hsame
    have hforms := hsame front back hsplit
    rw [List.append_nil, List.append_nil, endsWord, endsWord, hletter,
      facesCased_append_letter hcased hback, facesCased_of_transparent hback] at hforms
    cases hforms
  rw [hwhole] at hinfix
  rcases eq_append_or_eq_cons hinfix (by simp [hlength]) with ⟨d, hlast⟩ | ⟨d, hfirst⟩
  · exact hdiffer (List.append_inj hlast hlength).1
  · -- the letter would have to be the last of both
    have hends := congrArg List.getLast? hfirst
    cases hlower : lowerFrom [] xs with
    | nil =>
      rw [hlower] at hlength hdiffer
      exact hdiffer (List.length_eq_zero_iff.1 hlength)
    | cons first rest =>
      rw [hlower, List.getLast?_cons_cons, List.getLast?_append] at hends
      exact hother (hlower ▸ hends.symm)

/-- **Open at the start.** Some letter before the text hides it. -/
theorem exists_hidden_of_openAtStart (h : OpenAtStart xs) :
    ∃ ys, ¬lowerFrom [] xs <:+: lowerFrom [] (ys ++ xs) := by
  obtain ⟨c, hother, hsigma, hlower, hcased⟩ := exists_letter (lowerFrom [] xs).head?
  refine ⟨[c], fun hinfix => ?_⟩
  have hwhole : lowerFrom [] ([c] ++ xs) = c :: lowerFrom [c] xs := by
    rw [List.singleton_append, lowerFrom_cons, lowerAt, if_neg hsigma, hlower]
    rfl
  have hlength : (lowerFrom [c] xs).length = (lowerFrom [] xs).length := by
    rw [← lowerWithin_nil_right, ← lowerWithin_nil_right [] xs]
    exact length_lowerWithin
  -- the letter gives the final form to the sigma
  have hdiffer : lowerFrom [c] xs ≠ lowerFrom [] xs := by
    intro hsame
    obtain ⟨front, back, hsplit, hfront, hback⟩ := h
    have hreverse := transparent_reverse_iff.2 hfront
    rw [← lowerWithin_nil_right, ← lowerWithin_nil_right [] xs, lowerWithin_eq_iff] at hsame
    have hforms := hsame front back hsplit
    rw [List.append_nil, List.append_nil, endsWord, endsWord, hback,
      facesCased_append_letter hcased hreverse, facesCased_of_transparent hreverse] at hforms
    cases hforms
  rw [hwhole] at hinfix
  rcases eq_append_or_eq_cons hinfix (by simp [hlength]) with ⟨d, hlast⟩ | ⟨d, hfirst⟩
  · -- the letter would have to be the first of both
    have hstarts := congrArg List.head? hlast
    cases hlower : lowerFrom [] xs with
    | nil =>
      rw [hlower] at hlength hdiffer
      exact hdiffer (List.length_eq_zero_iff.1 hlength)
    | cons first rest =>
      rw [hlower] at hstarts hother
      exact hother hstarts.symm
  · exact hdiffer (List.cons.inj hfirst).2

/-! ## Parts of texts -/

theorem isPrefix_lowerFrom_iff :
    (∀ ys, lowerFrom [] xs <+: lowerFrom [] (xs ++ ys)) ↔ ¬OpenAtEnd xs := by
  constructor
  · intro hall hopen
    obtain ⟨ys, hhidden⟩ := exists_hidden_of_openAtEnd hopen
    exact hhidden (hall ys).isInfix
  · intro hclosed ys
    rw [lowerFrom_append, lowerWithin_eq_lowerFrom (Or.inl rfl) (Or.inr hclosed)]
    exact List.prefix_append _ _

theorem isSuffix_lowerFrom_iff :
    (∀ ys, lowerFrom [] xs <:+ lowerFrom [] (ys ++ xs)) ↔ ¬OpenAtStart xs := by
  constructor
  · intro hall hopen
    obtain ⟨ys, hhidden⟩ := exists_hidden_of_openAtStart hopen
    exact hhidden (hall ys).isInfix
  · intro hclosed ys
    have hpart : lowerFrom (ys.reverse ++ []) xs = lowerFrom [] xs := by
      rw [← lowerWithin_nil_right]
      exact lowerWithin_eq_lowerFrom (Or.inr hclosed) (Or.inl rfl)
    rw [lowerFrom_append, hpart]
    exact List.suffix_append _ _

theorem isInfix_lowerFrom_iff :
    (∀ ys zs, lowerFrom [] xs <:+: lowerFrom [] (ys ++ xs ++ zs)) ↔
      ¬OpenAtStart xs ∧ ¬OpenAtEnd xs := by
  constructor
  · intro hall
    constructor
    · intro hopen
      obtain ⟨ys, hhidden⟩ := exists_hidden_of_openAtStart hopen
      exact hhidden (by simpa using hall ys [])
    · intro hopen
      obtain ⟨zs, hhidden⟩ := exists_hidden_of_openAtEnd hopen
      exact hhidden (by simpa using hall [] zs)
  · rintro ⟨hstart, hend⟩ ys zs
    rw [List.append_assoc, lowerFrom_append, lowerFrom_append,
      lowerWithin_eq_lowerFrom (Or.inr hstart) (Or.inr hend), ← List.append_assoc]
    exact List.infix_append _ _ _

end FederatedAccess.Text
