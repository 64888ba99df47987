import FederatedAccess.Pattern

/-!
# What an expression matches

`Node.Matches` says between which two places of a text an expression matches, by its structure
alone: a repetition is a number of matches in a row. `Node.reach` finds exactly the places where
such a match ends (`mem_reach_iff`), although it never follows more repetitions than the text has
places. A match never goes back, so among more repetitions than that one leads nowhere, and any
number of further ones can be put in its place (`Times.pump`).
-/

namespace FederatedAccess.Pattern

/-! ## Repeated steps -/

/-- A number of steps of a relation in a row. -/
def Times (step : Nat → Nat → Prop) : Nat → Nat → Nat → Prop
  | 0, i, j => i = j
  | n + 1, i, j => ∃ k, step i k ∧ Times step n k j

namespace Times

variable {step : Nat → Nat → Prop} {m n i j k : Nat}

theorem append (h : Times step m i k) (h' : Times step n k j) : Times step (m + n) i j := by
  induction m generalizing i with
  | zero =>
    obtain rfl : i = k := h
    rwa [Nat.zero_add]
  | succ m ih =>
    obtain ⟨l, hstep, hrest⟩ := h
    rw [Nat.succ_add]
    exact ⟨l, hstep, ih hrest⟩

theorem split (h : Times step (m + n) i j) : ∃ k, Times step m i k ∧ Times step n k j := by
  induction m generalizing i with
  | zero =>
    rw [Nat.zero_add] at h
    exact ⟨i, rfl, h⟩
  | succ m ih =>
    rw [Nat.succ_add] at h
    obtain ⟨l, hstep, hrest⟩ := h
    obtain ⟨k, hm, hn⟩ := ih hrest
    exact ⟨k, ⟨l, hstep, hm⟩, hn⟩

theorem le (hmono : ∀ i j, step i j → i ≤ j) (h : Times step n i j) : i ≤ j := by
  induction n generalizing i with
  | zero => exact Nat.le_of_eq h
  | succ n ih =>
    obtain ⟨k, hstep, hrest⟩ := h
    exact Nat.le_trans (hmono i k hstep) (ih hrest)

theorem invariant {p : Nat → Prop} (hp : ∀ i j, step i j → p i → p j) (h : Times step n i j)
    (hi : p i) : p j := by
  induction n generalizing i with
  | zero =>
    obtain rfl : i = j := h
    exact hi
  | succ n ih =>
    obtain ⟨k, hstep, hrest⟩ := h
    exact ih hrest (hp i k hstep hi)

theorem stay (h : step i i) (n : Nat) : Times step n i i := by
  induction n with
  | zero => rfl
  | succ n ih => exact ⟨i, h, ih⟩

/-- **Pumping.** Where steps never go back, more steps than places are passed can be replaced by any
other number of steps that is as large. -/
theorem pump (hmono : ∀ i j, step i j → i ≤ j) (h : Times step n i j) (hn : j < i + n)
    (hm : j < i + m) : Times step m i j := by
  induction n generalizing i m with
  | zero =>
    have hij : i = j := h
    omega
  | succ n ih =>
    obtain ⟨k, hstep, hrest⟩ := h
    have hik := hmono i k hstep
    have hkj := le hmono hrest
    by_cases hstay : k = i
    · subst hstay
      by_cases hfewer : j < k + n
      · exact ih hrest hfewer hm
      · -- this is the one step that leads nowhere: take it as often as is needed
        have hsplit : m = (m - n) + n := by omega
        rw [hsplit]
        exact (stay hstep (m - n)).append hrest
    · obtain ⟨m, rfl⟩ : ∃ l, m = l + 1 := ⟨m - 1, by omega⟩
      exact ⟨k, hstep, ih hrest (by omega) (by omega)⟩

end Times

namespace Node

/-! ## Matches -/

/-- The expression matches between two places of a text. A limit of repetitions below their least
number counts as this number. -/
def Matches (text : Array Char) : Node → Nat → Nat → Prop
  | empty, i, j => i = j
  | char set, i, j => (∃ c, text[i]? = some c ∧ set.contains c = true) ∧ j = i + 1
  | look assertion, i, j => assertion.holds (charBefore text i) text[i]? = true ∧ i = j
  | seq a b, i, j => ∃ k, Matches text a i k ∧ Matches text b k j
  | alt a b, i, j => Matches text a i j ∨ Matches text b i j
  | rep least most a, i, j =>
    ∃ n, least ≤ n ∧ (∀ m, most = some m → n ≤ max least m) ∧ Times (Matches text a) n i j

variable {text : Array Char} {a : Node} {i j : Nat} {places : List Nat}

theorem le_of_matches (h : a.Matches text i j) : i ≤ j := by
  induction a generalizing i j with
  | empty => exact Nat.le_of_eq h
  | char set =>
    obtain ⟨-, rfl⟩ := h
    exact Nat.le_succ i
  | look assertion => exact Nat.le_of_eq h.2
  | seq a b iha ihb =>
    obtain ⟨k, ha, hb⟩ := h
    exact Nat.le_trans (iha ha) (ihb hb)
  | alt a b iha ihb =>
    rcases h with ha | hb
    · exact iha ha
    · exact ihb hb
  | rep least most a ih =>
    obtain ⟨n, -, -, htimes⟩ := h
    exact htimes.le fun i j => ih

theorem le_size_of_matches (h : a.Matches text i j) (hi : i ≤ text.size) : j ≤ text.size := by
  induction a generalizing i j with
  | empty =>
    obtain rfl : i = j := h
    exact hi
  | char set =>
    obtain ⟨⟨c, hc, -⟩, rfl⟩ := h
    exact (Array.getElem?_eq_some_iff.1 hc).1
  | look assertion =>
    obtain ⟨-, rfl⟩ := h
    exact hi
  | seq a b iha ihb =>
    obtain ⟨k, ha, hb⟩ := h
    exact ihb hb (iha ha hi)
  | alt a b iha ihb =>
    rcases h with ha | hb
    · exact iha ha hi
    · exact ihb hb hi
  | rep least most a ih =>
    obtain ⟨n, -, -, htimes⟩ := h
    exact Times.invariant (p := (· ≤ text.size)) (fun i j hstep hi => ih hstep hi) htimes hi

/-! ## Finding matches -/

section Steps

variable {step : List Nat → List Nat} {next : Nat → Nat → Prop} {size n : Nat}
  {fresh found : List Nat}

/-- The function gives the places that a step of the relation leads to from some places within the
text. -/
def Takes (size : Nat) (step : List Nat → List Nat) (next : Nat → Nat → Prop) : Prop :=
  ∀ places, (∀ i ∈ places, i ≤ size) → ∀ j, j ∈ step places ↔ ∃ i ∈ places, next i j

/-- No step leads out of the text. -/
def StaysWithin (size : Nat) (next : Nat → Nat → Prop) : Prop :=
  ∀ i j, next i j → i ≤ size → j ≤ size

theorem within_of_mem (htakes : Takes size step next) (hwithin : StaysWithin size next)
    (hplaces : ∀ i ∈ places, i ≤ size) : ∀ j ∈ step places, j ≤ size := by
  intro j hj
  obtain ⟨i, hi, hnext⟩ := (htakes places hplaces j).1 hj
  exact hwithin i j hnext (hplaces i hi)

theorem mem_steps_iff (htakes : Takes size step next) (hwithin : StaysWithin size next)
    (hplaces : ∀ i ∈ places, i ≤ size) :
    j ∈ steps step n places ↔ ∃ i ∈ places, Times next n i j := by
  induction n generalizing places with
  | zero => simp [steps, Times]
  | succ n ih =>
    rw [steps]
    split
    · rename_i hnone
      simp [hnone]
    · rw [ih (within_of_mem htakes hwithin hplaces)]
      simp only [htakes places hplaces, Times]
      constructor
      · rintro ⟨k, ⟨i, hi, hnext⟩, hrest⟩
        exact ⟨i, hi, k, hnext, hrest⟩
      · rintro ⟨i, hi, k, hnext, hrest⟩
        exact ⟨k, ⟨i, hi, hnext⟩, hrest⟩

/-- What a step leads to from the places that were found has been found, except from those that are
fresh. -/
structure IsFringe (next : Nat → Nat → Prop) (fresh found : List Nat) : Prop where
  /-- Fresh places were found. -/
  subset : ∀ i ∈ fresh, i ∈ found
  /-- No other place leads to a new one. -/
  settled : ∀ i ∈ found, i ∉ fresh → ∀ j, next i j → j ∈ found

/-- Places that the next step finds. -/
def IsNew (next : Nat → Nat → Prop) (fresh found new : List Nat) : Prop :=
  ∀ j, j ∈ new ↔ (∃ i ∈ fresh, next i j) ∧ j ∉ found

theorem IsFringe.mem_or_mem {new : List Nat} (hfringe : IsFringe next fresh found)
    (hnew : IsNew next fresh found new) (hi : i ∈ found) (hnext : next i j) :
    j ∈ found ∨ j ∈ new := by
  by_cases hj : j ∈ found
  · exact Or.inl hj
  · by_cases hfresh : i ∈ fresh
    · exact Or.inr ((hnew j).2 ⟨⟨i, hfresh, hnext⟩, hj⟩)
    · exact Or.inl (hfringe.settled i hi hfresh j hnext)

theorem IsFringe.advance {new : List Nat} (hfringe : IsFringe next fresh found)
    (hnew : IsNew next fresh found new) : IsFringe next new (found ++ new) := by
  refine ⟨fun i hi => List.mem_append_right found hi, ?_⟩
  intro i hi hold j hnext
  rcases List.mem_append.1 hi with hfound | hmem
  · exact List.mem_append.2 (hfringe.mem_or_mem hnew hfound hnext)
  · exact absurd hmem hold

/-- With the new places among those found, one step less leads as far. -/
theorem IsFringe.exists_times_iff {new : List Nat} (hfringe : IsFringe next fresh found)
    (hnew : IsNew next fresh found new) :
    (∃ m ≤ n, ∃ i ∈ found ++ new, Times next m i j) ↔
      ∃ m ≤ n + 1, ∃ i ∈ found, Times next m i j := by
  constructor
  · rintro ⟨m, hm, k, hk, htimes⟩
    rcases List.mem_append.1 hk with hk | hk
    · exact ⟨m, Nat.le_succ_of_le hm, k, hk, htimes⟩
    · obtain ⟨⟨i, hi, hnext⟩, -⟩ := (hnew k).1 hk
      exact ⟨m + 1, Nat.succ_le_succ hm, i, hfringe.subset i hi, k, hnext, htimes⟩
  · rintro ⟨m, hm, i, hi, htimes⟩
    cases m with
    | zero => exact ⟨0, Nat.zero_le n, i, List.mem_append_left new hi, htimes⟩
    | succ m =>
      obtain ⟨k, hnext, hrest⟩ := htimes
      have hk : k ∈ found ++ new := List.mem_append.2 (hfringe.mem_or_mem hnew hi hnext)
      exact ⟨m, Nat.le_of_succ_le_succ hm, k, hk, hrest⟩

theorem mem_spread_iff (htakes : Takes size step next) (hwithin : StaysWithin size next)
    (hfound : ∀ i ∈ found, i ≤ size) (hfringe : IsFringe next fresh found) :
    j ∈ spread step n fresh found ↔ ∃ m ≤ n, ∃ i ∈ found, Times next m i j := by
  induction n generalizing fresh found with
  | zero =>
    rw [spread]
    constructor
    · intro hj
      exact ⟨0, Nat.le_refl 0, j, hj, rfl⟩
    · rintro ⟨m, hm, i, hi, htimes⟩
      obtain rfl := Nat.le_zero.1 hm
      obtain rfl : i = j := htimes
      exact hi
  | succ n ih =>
    have hfresh : ∀ i ∈ fresh, i ≤ size := fun i hi => hfound i (hfringe.subset i hi)
    have hnew : IsNew next fresh found ((step fresh).filter fun i => !found.contains i) := by
      intro k
      rw [List.mem_filter, htakes fresh hfresh]
      simp
    rw [spread]
    generalize (step fresh).filter (fun i => !found.contains i) = new at hnew
    show j ∈ (if new = [] then found else spread step n new (found ++ new)) ↔ _
    split
    · rename_i hnone
      -- no step leads to a new place any more
      have hclosed : ∀ i j, next i j → i ∈ found → j ∈ found := by
        intro i j hnext hi
        rcases hfringe.mem_or_mem hnew hi hnext with hj | hj
        · exact hj
        · rw [hnone] at hj
          exact absurd hj List.not_mem_nil
      constructor
      · intro hj
        exact ⟨0, Nat.zero_le _, j, hj, rfl⟩
      · rintro ⟨m, -, i, hi, htimes⟩
        exact Times.invariant (p := (· ∈ found)) hclosed htimes hi
    · have hwide : ∀ i ∈ found ++ new, i ≤ size := by
        intro k hk
        rcases List.mem_append.1 hk with hk | hk
        · exact hfound k hk
        · obtain ⟨⟨i, hi, hnext⟩, -⟩ := (hnew k).1 hk
          exact hwithin i k hnext (hfresh i hi)
      rw [ih hwide (hfringe.advance hnew), hfringe.exists_times_iff hnew]

/-- Taking steps from some places, and then further ones. -/
theorem mem_spread_steps_iff (htakes : Takes size step next) (hwithin : StaysWithin size next)
    (hplaces : ∀ i ∈ places, i ≤ size) {least : Nat} :
    j ∈ spread step n (steps step least places) (steps step least places) ↔
      ∃ m ≤ n, ∃ i ∈ places, Times next (least + m) i j := by
  have hstart : ∀ k ∈ steps step least places, k ≤ size := by
    intro k hk
    obtain ⟨i, hi, htimes⟩ := (mem_steps_iff htakes hwithin hplaces).1 hk
    exact Times.invariant (p := (· ≤ size)) hwithin htimes (hplaces i hi)
  rw [mem_spread_iff htakes hwithin hstart ⟨fun _ hi => hi, fun i hi hnot => absurd hi hnot⟩]
  simp only [mem_steps_iff htakes hwithin hplaces]
  constructor
  · rintro ⟨m, hm, k, ⟨i, hi, hleast⟩, hrest⟩
    exact ⟨m, hm, i, hi, hleast.append hrest⟩
  · rintro ⟨m, hm, i, hi, htimes⟩
    obtain ⟨k, hleast, hrest⟩ := htimes.split
    exact ⟨m, hm, k, ⟨i, hi, hleast⟩, hrest⟩

end Steps

/-- More repetitions than places need not be told apart. -/
theorem times_iff_limited {next : Nat → Nat → Prop} {size least : Nat} {most : Option Nat}
    (hmono : ∀ i j, next i j → i ≤ j) (hwithin : StaysWithin size next) (hi : i ≤ size) :
    (∃ n, least ≤ n ∧ (∀ m, most = some m → n ≤ max least m) ∧ Times next n i j) ↔
      ∃ e ≤ size + 1, (∀ m, most = some m → e ≤ m - least) ∧
        Times next (min least (size + 1) + e) i j := by
  have hend : ∀ {n}, Times next n i j → j ≤ size := fun htimes =>
    Times.invariant (p := (· ≤ size)) hwithin htimes hi
  by_cases hlong : size + 1 < least
  · -- so many repetitions that one of them leads nowhere
    have hmin : min least (size + 1) = size + 1 := by omega
    rw [hmin]
    constructor
    · rintro ⟨n, hleast, -, htimes⟩
      have hj := hend htimes
      exact ⟨0, by omega, fun m _ => Nat.zero_le _, htimes.pump hmono (by omega) (by omega)⟩
    · rintro ⟨e, -, -, htimes⟩
      have hj := hend htimes
      exact ⟨least, Nat.le_refl _, fun m _ => Nat.le_max_left least m,
        htimes.pump hmono (by omega) (by omega)⟩
  · have hmin : min least (size + 1) = least := by omega
    rw [hmin]
    constructor
    · rintro ⟨n, hleast, hmost, htimes⟩
      have hj := hend htimes
      obtain ⟨e, rfl⟩ := Nat.exists_eq_add_of_le hleast
      by_cases hfew : e ≤ size + 1
      · refine ⟨e, hfew, fun m hm => ?_, htimes⟩
        have := hmost m hm
        omega
      · refine ⟨size + 1, Nat.le_refl _, fun m hm => ?_, htimes.pump hmono (by omega) (by omega)⟩
        have := hmost m hm
        omega
    · rintro ⟨e, -, hmost, htimes⟩
      refine ⟨least + e, Nat.le_add_right least e, fun m hm => ?_, htimes⟩
      have := hmost m hm
      omega

theorem after?_eq_some_iff {set : Text.CharSet} :
    after? text set i = some j ↔ (char set).Matches text i j := by
  unfold after? Matches
  cases text[i]? with
  | none => simp
  | some c =>
    by_cases hc : set.contains c = true
    · simp only [hc, if_true, Option.some.injEq, exists_eq_left', true_and]
      exact eq_comm
    · simp [hc]

/-- Repeating what finds its places finds those of the repetition. -/
theorem takes_reach_rep (ih : Takes text.size (reach text a) (a.Matches text)) (least : Nat)
    (most : Option Nat) :
    Takes text.size (reach text (rep least most a)) ((rep least most a).Matches text) := by
  intro places hplaces j
  have hmono : ∀ i j, a.Matches text i j → i ≤ j := fun i j h => le_of_matches h
  have hwithin : StaysWithin text.size (a.Matches text) := fun i j h hi => le_size_of_matches h hi
  have hlimited : (∃ i ∈ places, (rep least most a).Matches text i j) ↔
      ∃ i ∈ places, ∃ e ≤ text.size + 1, (∀ m, most = some m → e ≤ m - least) ∧
        Times (a.Matches text) (min least (text.size + 1) + e) i j := by
    constructor
    · rintro ⟨i, hi, h⟩
      exact ⟨i, hi, (times_iff_limited hmono hwithin (hplaces i hi)).1 h⟩
    · rintro ⟨i, hi, h⟩
      exact ⟨i, hi, (times_iff_limited hmono hwithin (hplaces i hi)).2 h⟩
  rw [hlimited]
  cases most with
  | none =>
    show j ∈ spread (reach text a) (text.size + 1) _ _ ↔ _
    rw [mem_spread_steps_iff ih hwithin hplaces]
    constructor
    · rintro ⟨e, he, i, hi, htimes⟩
      exact ⟨i, hi, e, he, nofun, htimes⟩
    · rintro ⟨i, hi, e, he, -, htimes⟩
      exact ⟨e, he, i, hi, htimes⟩
  | some m =>
    show j ∈ spread (reach text a) (min (m - least) (text.size + 1)) _ _ ↔ _
    rw [mem_spread_steps_iff ih hwithin hplaces]
    constructor
    · rintro ⟨e, he, i, hi, htimes⟩
      obtain ⟨hlimit, hplace⟩ := Nat.le_min.1 he
      refine ⟨i, hi, e, hplace, fun m' hm => ?_, htimes⟩
      obtain rfl := Option.some.inj hm
      exact hlimit
    · rintro ⟨i, hi, e, he, hlimit, htimes⟩
      exact ⟨e, Nat.le_min.2 ⟨hlimit m rfl, he⟩, i, hi, htimes⟩

/-- **Matching.** The places that are found are those where a match ends. -/
theorem takes_reach (text : Array Char) (a : Node) :
    Takes text.size (reach text a) (a.Matches text) := by
  induction a with
  | empty =>
    intro places hplaces j
    simp [reach, Matches]
  | char set =>
    intro places hplaces j
    rw [reach, List.mem_filterMap]
    constructor
    · rintro ⟨i, hi, hafter⟩
      exact ⟨i, hi, after?_eq_some_iff.1 hafter⟩
    · rintro ⟨i, hi, hmatch⟩
      exact ⟨i, hi, after?_eq_some_iff.2 hmatch⟩
  | look assertion =>
    intro places hplaces j
    rw [reach, List.mem_filter]
    constructor
    · rintro ⟨hj, hholds⟩
      exact ⟨j, hj, hholds, rfl⟩
    · rintro ⟨i, hi, hholds, rfl⟩
      exact ⟨hi, hholds⟩
  | seq a b iha ihb =>
    intro places hplaces j
    have hwithin : StaysWithin text.size (a.Matches text) := fun i j h hi => le_size_of_matches h hi
    rw [reach, ihb _ (within_of_mem iha hwithin hplaces)]
    simp only [iha places hplaces]
    constructor
    · rintro ⟨k, ⟨i, hi, ha⟩, hb⟩
      exact ⟨i, hi, k, ha, hb⟩
    · rintro ⟨i, hi, k, ha, hb⟩
      exact ⟨k, ⟨i, hi, ha⟩, hb⟩
  | alt a b iha ihb =>
    intro places hplaces j
    rw [reach, mem_distinct, List.mem_append, iha places hplaces, ihb places hplaces, ← exists_or]
    simp only [← and_or_left]
    rfl
  | rep least most a ih => exact takes_reach_rep ih least most

/-- The expression matches the text from its start to its end. -/
def Spans (a : Node) (text : String) : Prop :=
  a.Matches text.toList.toArray 0 text.toList.length

/-- An expression occurs in a text when it matches between two of its places. -/
theorem occursIn_iff {text : String} :
    a.occursIn text = true ↔
      ∃ i ≤ text.toList.length, ∃ j, a.Matches text.toList.toArray i j := by
  have hrange : ∀ i ∈ List.range (text.toList.toArray.size + 1), i ≤ text.toList.toArray.size :=
    fun i hi => Nat.le_of_lt_succ (List.mem_range.1 hi)
  have hends := takes_reach text.toList.toArray a _ hrange
  have hsize : text.toList.toArray.size = text.toList.length := List.size_toArray
  unfold occursIn
  rw [decide_eq_true_iff, ← List.length_pos_iff, List.length_pos_iff_exists_mem]
  constructor
  · rintro ⟨j, hj⟩
    obtain ⟨i, hi, hmatch⟩ := (hends j).1 hj
    exact ⟨i, hsize ▸ hrange i hi, j, hmatch⟩
  · rintro ⟨i, hi, j, hmatch⟩
    exact ⟨j, (hends j).2 ⟨i, List.mem_range.2 (Nat.lt_succ_of_le (hsize ▸ hi)), hmatch⟩⟩

theorem textStart_holds_iff (hi : i ≤ text.size) :
    Assertion.textStart.holds (charBefore text i) text[i]? = true ↔ i = 0 := by
  cases i with
  | zero => simp [Assertion.holds, charBefore]
  | succ i =>
    have hbefore : (charBefore text (i + 1)).isNone = false := by
      simp only [charBefore, Nat.succ_ne_zero, if_false, Nat.add_sub_cancel]
      rw [Array.getElem?_eq_getElem hi]
      rfl
    simp [Assertion.holds, hbefore]

theorem textEnd_holds_iff (hi : i ≤ text.size) :
    Assertion.textEnd.holds (charBefore text i) text[i]? = true ↔ i = text.size := by
  simp only [Assertion.holds, Option.isNone_iff_eq_none, Array.getElem?_eq_none_iff]
  omega

/-- **Whole texts.** Between the two ends of a text an expression occurs exactly when it matches all
of it. -/
theorem occursIn_between_ends_iff {text : String} :
    (seq (look .textStart) (seq a (look .textEnd))).occursIn text = true ↔ a.Spans text := by
  have hsize : text.toList.toArray.size = text.toList.length := List.size_toArray
  rw [occursIn_iff]
  constructor
  · rintro ⟨i, hi, j, k, ⟨hstart, rfl⟩, l, hmatch, hend, rfl⟩
    rw [← hsize] at hi
    rw [textStart_holds_iff hi] at hstart
    rw [textEnd_holds_iff (le_size_of_matches hmatch hi)] at hend
    subst hstart hend
    rwa [hsize] at hmatch
  · intro hmatch
    refine ⟨0, Nat.zero_le _, _, 0, ⟨rfl, rfl⟩, _, hmatch, ?_, rfl⟩
    exact (textEnd_holds_iff (Nat.le_of_eq hsize.symm)).2 hsize.symm

instance (a : Node) (text : String) : Decidable (a.Spans text) :=
  decidable_of_iff _ occursIn_between_ends_iff

end Node

end FederatedAccess.Pattern
