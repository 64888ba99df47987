import FederatedAccess.Proofs.Pattern.Closing.Group

/-!
# A pattern between the two ends of a text

What is read of an anchored pattern depends on what the pattern is by itself. An expression is read
as such between the two ends (`expression?_anchored`), unless a comment at its end swallows the
closing; it nests two levels more then. A pattern that is no expression cannot be read, with one
exception: it may end the group around it with a parenthesis of its own.
-/

namespace FederatedAccess.Pattern

/-! ## Patterns by themselves -/

/-- A text read as an expression, however deep it nests. -/
def expression? (text : String) : Option Item :=
  (readGroup? (text.toList.length + 1) ⟨text.toList, {}, []⟩ [] []).bind fun found =>
    if found.2.rest = [] then some found.1 else none

theorem expression?_eq_some_iff {text : String} {item : Item} :
    expression? text = some item ↔
      ∃ scan, readGroup? (text.toList.length + 1) ⟨text.toList, {}, []⟩ [] [] = some (item, scan) ∧
        scan.rest = [] := by
  rw [expression?, Option.bind_eq_some_iff]
  constructor
  · rintro ⟨⟨whole, scan⟩, hread, hwhole⟩
    obtain ⟨hend, hitem⟩ := Option.ite_none_right_eq_some.mp hwhole
    obtain rfl : whole = item := Option.some.inj hitem
    exact ⟨scan, hread, hend⟩
  · rintro ⟨scan, hread, hend⟩
    exact ⟨(item, scan), hread, if_pos hend⟩

theorem read?_eq_some_iff {text : String} {node : Node} :
    read? text = some node ↔
      ∃ item, expression? text = some item ∧ item.depth ≤ mostLevels ∧ item.node = node := by
  simp only [read?, expression?]
  cases readGroup? (text.toList.length + 1) ⟨text.toList, {}, []⟩ [] [] with
  | none => simp
  | some found =>
    by_cases hrest : found.2.rest = [] <;> by_cases hdepth : found.1.depth ≤ mostLevels <;>
      simp_all

/-- Reading stops at a parenthesis that ends no group of the text. -/
def ClosesUnopened (text : String) : Prop :=
  ∃ found, readGroup? (text.toList.length + 1) ⟨text.toList, {}, []⟩ [] [] = some found ∧
    found.2.rest ≠ []

theorem not_closesUnopened {text : String} {item : Item} (h : expression? text = some item) :
    ¬ClosesUnopened text := by
  rintro ⟨found, hread, hrest⟩
  obtain ⟨scan, hread', hend⟩ := expression?_eq_some_iff.mp h
  obtain rfl := Option.some.inj (hread.symm.trans hread')
  exact hrest hend

/-- The closing after a pattern is part of a comment, so that nothing but the pattern is read. -/
def LosesClosing (text : String) : Prop :=
  (expression? (text ++ ")$")).isSome = true

instance (text : String) : Decidable (LosesClosing text) := inferInstanceAs (Decidable (_ = true))

/-! ## Anchored patterns -/

/-- An expression in a group between the two ends of a text. -/
def Item.anchored (item : Item) : Item where
  node := .seq (.look .textStart) (.seq item.node (.look .textEnd))
  depth := item.depth + 2

theorem toList_anchored (pattern : String) :
    (anchored pattern).toList = '^' :: '(' :: '?' :: ':' :: (pattern.toList ++ closing) := by
  simp [anchored, closing]

theorem toList_append_closing (pattern : String) :
    (pattern ++ ")$").toList = pattern.toList ++ closing := by
  simp [closing]

theorem readGroup?_anchored (fuel : Nat) (input : List Char) :
    readGroup? (fuel + 2) ⟨'^' :: '(' :: '?' :: ':' :: input, {}, []⟩ [] [] =
      (readGroup? fuel ⟨input, {}, []⟩ [] []).bind
        (groupAfter? fuel {} [] [{ node := .look .textStart }]) := by
  rw [readGroup?_succ]
  show readGroup? (fuel + 1) ⟨'(' :: '?' :: ':' :: input, {}, []⟩ []
    [{ node := .look .textStart }] = _
  rw [readGroup?_succ]
  rfl

theorem groupAfter?_anchored (fuel : Nat) (item : Item) (flags : Flags) (names : List (List Char)) :
    groupAfter? (fuel + 2) {} [] [{ node := .look .textStart }] (item, ⟨closing, flags, names⟩) =
      some (item.anchored, ⟨[], {}, names⟩) := by
  show readGroup? (fuel + 2) ⟨['$'], {}, names⟩ [] _ = _
  rw [readGroup?_succ]
  show readGroup? (fuel + 1) ⟨[], {}, names⟩ [] _ = _
  rw [readGroup?_succ]
  have hdepth : max (max (max 0 0) (item.depth + 1)) 0 + 1 = item.depth + 2 := by omega
  show some (Item.mk _ (max (max (max 0 0) (item.depth + 1)) 0 + 1) false, _) = _
  rw [hdepth]
  rfl

/-- A pattern with the closing after it, as it is read inside an anchored pattern. -/
def closed? (pattern : String) : Option (Item × Scan) :=
  readGroup? (pattern.toList.length + 5) ⟨pattern.toList ++ closing, {}, []⟩ [] []

theorem closed?_agrees (pattern : String) :
    Agrees (SameGroup pattern.toList.length) GroupStray
      (readGroup? (pattern.toList.length + 1) ⟨pattern.toList, {}, []⟩ [] [])
      (closed? pattern) := by
  have hlen := length_append_closing pattern.toList
  exact readGroup?_agrees (.kept pattern.toList) (Nat.lt_succ_self _) (by omega) {} [] [] []

theorem losesClosing_iff {pattern : String} :
    LosesClosing pattern ↔ ∃ found, closed? pattern = some found ∧ found.2.rest = [] := by
  have hlen := length_append_closing pattern.toList
  have hfuel : readGroup? ((pattern.toList ++ closing).length + 1)
      ⟨pattern.toList ++ closing, {}, []⟩ [] [] = closed? pattern :=
    readGroup?_fuel (Nat.lt_succ_self _) (by omega) {} [] [] []
  rw [LosesClosing, expression?, toList_append_closing, hfuel]
  cases closed? pattern with
  | none => simp
  | some found => by_cases hrest : found.2.rest = [] <;> simp [hrest]

theorem expression?_anchored_eq (pattern : String) :
    expression? (anchored pattern) = (closed? pattern).bind fun found =>
      (groupAfter? (pattern.toList.length + 5) {} [] [{ node := .look .textStart }] found).bind
        fun found => if found.2.rest = [] then some found.1 else none := by
  have hlen : ('^' :: '(' :: '?' :: ':' :: (pattern.toList ++ closing)).length + 1 =
      pattern.toList.length + 5 + 2 := by
    simp only [List.length_cons, length_append_closing]
  rw [expression?, toList_anchored, hlen, readGroup?_anchored, Option.bind_assoc]
  rfl

/-- An expression is read as such between the two ends, if the closing is read as well. -/
theorem expression?_anchored {pattern : String} {item : Item}
    (h : expression? pattern = some item) :
    expression? (anchored pattern) =
      if LosesClosing pattern then none else some item.anchored := by
  obtain ⟨⟨rest, flags, names⟩, hread, rfl⟩ := expression?_eq_some_iff.mp h
  obtain ⟨⟨_, rest', _, _⟩, hclosed, hvalue, -, hleft⟩ :=
    (closed?_agrees pattern).exists_same hread
  cases hvalue
  rw [expression?_anchored_eq, hclosed, Option.bind_some]
  have hloses : LosesClosing pattern ↔ rest' = [] := by
    rw [losesClosing_iff, hclosed]
    simp
  obtain rfl | rfl := hleft.of_nil
  · rw [if_pos (hloses.mpr rfl)]
    rfl
  · have hkept : closing ≠ [] := by decide
    rw [if_neg (mt hloses.mp hkept), groupAfter?_anchored]
    rfl

/-- What is no expression is not read either, if it does not end the group around it. -/
theorem expression?_anchored_eq_none {pattern : String} (h : expression? pattern = none)
    (hopen : ¬ClosesUnopened pattern) : expression? (anchored pattern) = none := by
  have hagrees := closed?_agrees pattern
  rw [expression?_anchored_eq]
  cases hread : readGroup? (pattern.toList.length + 1) ⟨pattern.toList, {}, []⟩ [] [] with
  | some found =>
    -- reading stops somewhere, and only a parenthesis makes it stop before the end
    by_cases hrest : found.2.rest = []
    · have hsome := expression?_eq_some_iff.mpr ⟨found.2, hread, hrest⟩
      rw [h] at hsome
      contradiction
    · exact absurd ⟨found, hread, hrest⟩ hopen
  | none =>
    rw [hread] at hagrees
    generalize closed? pattern = found at hagrees ⊢
    cases hagrees with
    | failed => rfl
    | @stray found hstray =>
      have hrest : found.2.rest = [] := hstray
      simp only [Option.bind_some, groupAfter?, hrest]
      rfl

/-! ## Patterns that can be matched -/

/-- A pattern that does not end the group around it can be matched when it is an expression by
itself, the closing is read as well, and what is read and compiled is within the limits. -/
theorem ofText?_eq_some_iff [SizeLimit] {pattern : String} {found : Pattern}
    (hopen : ¬ClosesUnopened pattern) :
    ofText? pattern = some found ↔
      ∃ item, expression? pattern = some item ∧ ¬LosesClosing pattern ∧
        item.depth + 2 ≤ mostLevels ∧ SizeLimit.admits (anchored pattern) = true ∧
        (⟨item.anchored.node⟩ : Pattern) = found := by
  simp only [ofText?, Option.ite_none_right_eq_some, Option.map_eq_some_iff, read?_eq_some_iff]
  cases hitem : expression? pattern with
  | none =>
    rw [expression?_anchored_eq_none hitem hopen]
    simp
  | some item =>
    rw [expression?_anchored hitem]
    constructor
    · rintro ⟨hadmits, node, ⟨whole, hwhole, hdepth, rfl⟩, hfound⟩
      obtain ⟨hkept, hanchored⟩ := Option.ite_none_left_eq_some.1 hwhole
      obtain rfl := Option.some.inj hanchored
      exact ⟨item, rfl, hkept, hdepth, hadmits, hfound⟩
    · rintro ⟨item', hsome, hkept, hdepth, hadmits, hfound⟩
      obtain rfl := Option.some.inj hsome
      exact ⟨hadmits, _, ⟨item.anchored, if_neg hkept, hdepth, rfl⟩, hfound⟩

end FederatedAccess.Pattern
