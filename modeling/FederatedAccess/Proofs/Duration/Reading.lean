import FederatedAccess.Proofs.Duration.Terms

/-!
# Durations read back

A reader that is given terms behind each other, separated by blanks, adds them one by one
(`ofText?_joined`). So the text of a duration is read as the sum that it is, which is the duration
(`ofText?_text`).
-/

namespace FederatedAccess.Duration

/-! ## Reading -/

/-- The name of a unit is what a reader takes for it: letters, of which the first cannot belong to
the number in front. -/
structure TimeUnit.Names (name : List Char) (unit : TimeUnit) : Prop where
  ofName?_eq : TimeUnit.ofName? name = some unit
  letters : ∀ c ∈ name, isUnitChar c = true
  start : ∃ c rest, name = c :: rest ∧ Numeral.isDigit c = false ∧ Text.isBlank c = false ∧ c ≠ '.'

theorem TimeUnit.names_written (n : Nat) (unit : TimeUnit) :
    TimeUnit.Names (unit.written n).toList unit := by
  have hnumber : unit.written n = unit.written 1 ∨ unit.written n = unit.written 2 := by
    by_cases hn : n = 1
    · exact Or.inl (by rw [hn])
    · exact Or.inr (by cases unit <;> simp [written, hn])
  rcases hnumber with h | h <;> rw [h] <;> cases unit <;>
    exact ⟨by decide, List.all_eq_true.1 (by decide), _, _, rfl, by decide, by decide, by decide⟩

/-- The digits of a number that fits into a word are read up to what follows. -/
theorem number?_digits {ds : List Nat} {start : Nat} {c : Char} {rest : List Char}
    (hsmall : ∀ d ∈ ds, d < 10) (hfits : ds.foldl (fun n d => n * 10 + d) start < UInt64.size)
    (hdigit : Numeral.isDigit c = false) (hblank : Text.isBlank c = false) :
    number? (ds.map Numeral.digitChar ++ c :: rest) start =
      some (ds.foldl (fun n d => n * 10 + d) start, c :: rest) := by
  induction ds generalizing start with
  | nil => simp [number?, hdigit, hblank]
  | cons d ds ih =>
    rw [List.forall_mem_cons] at hsmall
    have hstart : start * 10 + d < UInt64.size :=
      Nat.lt_of_le_of_lt (Numeral.le_foldl_digits ds _) hfits
    rw [List.map_cons, List.cons_append, number?, if_pos (Numeral.isDigit_digitChar hsmall.1),
      appendDigit?, Numeral.digitValue_digitChar hsmall.1]
    simp only [hstart, if_true, Option.bind_some]
    exact ih hsmall.2 hfits

/-- What follows a term: another one behind a blank, or nothing. -/
def EndsTerm (rest : List Char) : Prop :=
  rest = [] ∨ ∃ more, rest = ' ' :: more

theorem fraction?_of_ne {c : Char} (h : c ≠ '.') (rest : List Char) :
    fraction? (c :: rest) = some (none, c :: rest) := by
  unfold fraction?
  split
  · rename_i heq
    exact absurd (List.cons.inj heq).1 h
  · rfl

variable {rest : List Char}

theorem EndsTerm.endsUnit (h : EndsTerm rest) : endsUnit rest = true := by
  rcases h with rfl | ⟨more, rfl⟩
  · rfl
  · rfl

/-- A reader of letters stops behind the name of a unit. -/
theorem EndsTerm.span {name : List Char} (h : EndsTerm rest)
    (hletters : ∀ c ∈ name, isUnitChar c = true) :
    (name ++ rest).takeWhile isUnitChar = name ∧ (name ++ rest).dropWhile isUnitChar = rest := by
  have hstop : rest.takeWhile isUnitChar = [] ∧ rest.dropWhile isUnitChar = rest := by
    rcases h with rfl | ⟨more, rfl⟩
    · exact ⟨rfl, rfl⟩
    · exact ⟨rfl, rfl⟩
  rw [List.takeWhile_append_of_pos hletters, List.dropWhile_append_of_pos hletters, hstop.1,
    hstop.2, List.append_nil]
  exact ⟨rfl, rfl⟩

/-- A number is written with a first digit, from which a reader gets to the number by the others. -/
theorem exists_digits (n : Nat) :
    ∃ (d : Nat) (ds : List Nat), d < 10 ∧ (∀ e ∈ ds, e < 10) ∧
      ds.foldl (fun n d => n * 10 + d) d = n ∧
      Numeral.natChars n = Numeral.digitChar d :: ds.map Numeral.digitChar := by
  obtain ⟨hvalue, hsmall, hnonempty, -⟩ := Numeral.digits_isNumeral n
  obtain ⟨d, ds, hds⟩ := List.exists_cons_of_ne_nil hnonempty
  rw [hds, List.forall_mem_cons] at hsmall
  rw [hds, Numeral.ofDigits, List.foldl_cons, Nat.zero_mul, Nat.zero_add] at hvalue
  exact ⟨d, ds, hsmall.1, hsmall.2, hvalue, by rw [Numeral.natChars, hds, List.map_cons]⟩

theorem toList_text (t : Term) :
    t.text.toList = Numeral.natChars t.number ++ (t.unit.written t.number).toList := by
  rw [Term.text, String.toList_append, Numeral.ofNat, String.toList_ofList]

theorem not_blank_digitChar {d : Nat} (h : d < 10) :
    Text.isBlank (Numeral.digitChar d) = false := by
  have hall : ∀ d < 10, Text.isBlank (Numeral.digitChar d) = false := by decide
  exact hall d h

/-- **Reading a term.** A term at the front is added, and reading goes on behind it. -/
theorem sum?_term {t : Term} {total : Duration} (fuel : Nat) (hfits : t.number < UInt64.size)
    (hrest : EndsTerm rest) :
    sum? (fuel + 1) (t.text.toList ++ rest) total = (t.addTo? total).bind (sum? fuel rest) := by
  obtain ⟨d, ds, hd, hds, hvalue, hchars⟩ := exists_digits t.number
  obtain ⟨hname, hletters, c, cs, hc, hdigit, hblank, hpoint⟩ :=
    TimeUnit.names_written t.number t.unit
  obtain ⟨htake, hdrop⟩ := hrest.span hletters
  have htext : t.text.toList ++ rest = Numeral.digitChar d ::
      (ds.map Numeral.digitChar ++ c :: (cs ++ rest)) := by
    rw [toList_text, hchars, hc, List.append_assoc, List.cons_append, List.cons_append]
  have hnumber : number? (ds.map Numeral.digitChar ++ c :: (cs ++ rest)) d =
      some (t.number, c :: (cs ++ rest)) := by
    rw [number?_digits hds (hvalue ▸ hfits) hdigit hblank, hvalue]
  rw [hc] at hname
  rw [hc, List.cons_append] at htake hdrop
  -- the parts that the reader finds, from left to right
  rw [htext, sum?, List.dropWhile_cons_of_neg (by simp [not_blank_digitChar hd])]
  simp only [Numeral.isDigit_digitChar hd, Numeral.digitValue_digitChar hd, hnumber,
    fraction?_of_ne hpoint, htake, hdrop, hname, hrest.endsUnit, Bool.not_true, Bool.false_eq_true,
    if_false, if_true, Option.bind_eq_bind, Option.bind_some]
  rfl

/-- Blanks in front of a term do not count. -/
theorem sum?_blank (fuel : Nat) (input : List Char) (total : Duration) :
    sum? fuel (' ' :: input) total = sum? fuel input total := by
  cases fuel with
  | zero => rfl
  | succ fuel =>
    have hblank : Text.isBlank ' ' = true := by decide
    rw [sum?, sum?, List.dropWhile_cons_of_pos hblank]

/-- The characters of terms, each behind a blank. -/
def spaced (ts : List Term) : List Char :=
  ts.flatMap fun t => ' ' :: t.text.toList

theorem spaced_cons (t : Term) (rest : List Term) :
    spaced (t :: rest) = ' ' :: (t.text.toList ++ spaced rest) := rfl

theorem endsTerm_spaced (ts : List Term) : EndsTerm (spaced ts) := by
  cases ts with
  | nil => exact Or.inl rfl
  | cons t rest => exact Or.inr ⟨_, rfl⟩

/-- **Reading terms.** They are added one by one. -/
theorem sum?_spaced {ts : List Term} {fuel : Nat} (hfuel : ts.length < fuel)
    (hfits : ∀ t ∈ ts, t.number < UInt64.size) (total : Duration) :
    sum? fuel (spaced ts) total = addAll? total ts := by
  induction ts generalizing fuel total with
  | nil =>
    obtain ⟨fuel, rfl⟩ := Nat.exists_eq_succ_of_ne_zero (Nat.ne_of_gt hfuel)
    rfl
  | cons t rest ih =>
    obtain ⟨fuel, rfl⟩ := Nat.exists_eq_succ_of_ne_zero (Nat.ne_of_gt (Nat.zero_lt_of_lt hfuel))
    rw [List.forall_mem_cons] at hfits
    rw [spaced_cons, sum?_blank, sum?_term fuel hfits.1 (endsTerm_spaced rest), addAll?,
      List.foldlM_cons, Option.bind_eq_bind]
    congr 1
    funext next
    exact ih (Nat.lt_of_succ_lt_succ hfuel) hfits.2 next

/-! ## There and back -/

theorem toList_joined_cons (t : Term) (rest : List Term) :
    (joined (t :: rest)).toList = t.text.toList ++ spaced rest := by
  rw [joined, String.toList_intercalate]
  induction rest generalizing t with
  | nil => simp [spaced]
  | cons u us ih =>
    have hrest := ih u
    simp only [List.map_cons] at hrest ⊢
    rw [List.intercalate_cons_cons, hrest, List.append_assoc]
    rfl

theorem two_mul_length_le_spaced (ts : List Term) : 2 * ts.length ≤ (spaced ts).length := by
  induction ts with
  | nil => exact Nat.zero_le _
  | cons t rest ih =>
    obtain ⟨d, ds, -, -, -, hchars⟩ := exists_digits t.number
    rw [spaced_cons, toList_text, hchars]
    simp only [List.length_cons, List.length_append]
    omega

/-- **Reading a sum.** A text of terms is read by adding them. -/
theorem ofText?_joined {ts : List Term} (hts : ts ≠ [])
    (hfits : ∀ t ∈ ts, t.number < UInt64.size) :
    ofText? (joined ts) = addAll? zero ts := by
  obtain ⟨t, rest, rfl⟩ := List.exists_cons_of_ne_nil hts
  have hspaced : ' ' :: (joined (t :: rest)).toList = spaced (t :: rest) := by
    rw [toList_joined_cons, spaced_cons]
  have hnotBlank : Text.isBlankText (joined (t :: rest)) = false := by
    obtain ⟨d, ds, hd, -, -, hchars⟩ := exists_digits t.number
    rw [Text.isBlankText, toList_joined_cons, toList_text, hchars]
    simp [not_blank_digitChar hd]
  -- every term takes a blank and a digit at least, so that the fuel is enough
  have hlength := two_mul_length_le_spaced (t :: rest)
  rw [← hspaced, List.length_cons] at hlength
  rw [ofText?, hnotBlank, if_neg Bool.false_ne_true, ← sum?_blank, hspaced]
  refine sum?_spaced ?_ hfits zero
  rw [List.length_cons] at hlength ⊢
  omega

/-- **There and back.** The text of a duration is read as adding up its terms, which gives the
duration. -/
theorem ofText?_text (d : Duration) : ofText? d.text = some d := by
  rw [text_eq, ofText?_joined (terms_ne_nil d) fun t => number_lt_of_mem_terms]
  refine addAll?_eq_some (fun t => isCarried_of_mem_terms) ?_
  rw [sum_terms]
  exact Nat.zero_add _

end FederatedAccess.Duration
