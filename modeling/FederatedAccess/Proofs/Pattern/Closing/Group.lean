import FederatedAccess.Proofs.Pattern.Closing.Bracket
import FederatedAccess.Pattern.Group

/-!
# Groups with the closing

A group is read to the parenthesis that ends it. An expression that can be read by itself is
therefore read in the same way with the closing after it, up to the closing (`readGroup?_agrees`);
where it cannot be read, the parenthesis of the closing may complete it, but nothing is left then.
-/

namespace FederatedAccess.Pattern

open Text

variable {flags : Flags} {spaced : Bool} {input full : List Char} {n m : Nat}

/-! ## Repetition -/

theorem digitsOf_eq_spanOf (n : Nat) (input : List Char) :
    count?.digitsOf spaced n input = spanOf Numeral.isDigit spaced n input := by
  induction n generalizing input with
  | zero => rfl
  | succ n ih =>
    cases input with
    | nil => rfl
    | cons c rest => simp only [count?.digitsOf, spanOf, ih]

theorem dropBlanks_eq_spanOf (n : Nat) (input : List Char) :
    count?.dropBlanks spaced n input = (spanOf isBlank spaced n input).2 := by
  induction n generalizing input with
  | zero => rfl
  | succ n ih =>
    cases input with
    | nil => rfl
    | cons c rest =>
      simp only [count?.dropBlanks, spanOf, ih]
      split_ifs <;> rfl

theorem count?_agrees (h : Closed input full) :
    Agrees (Alike input.length) never (count? spaced input) (count? spaced full) := by
  have hlen := (List.dropWhile_suffix (l := input) isBlank).length_le
  have hlen' := (List.dropWhile_suffix (l := full) isBlank).length_le
  have hstart := h.dropWhile (p := isBlank) (by decide)
  have hdigits := (spanOf_alike (p := Numeral.isDigit) spaced (by decide) hstart
    (Nat.le_succ_of_le hlen) (Nat.le_succ_of_le hlen')).mono hlen
  simp only [count?, digitsOf_eq_spanOf, dropBlanks_eq_spanOf]
  generalize spanOf Numeral.isDigit spaced (input.length + 1) (input.dropWhile isBlank) = found
    at hdigits ⊢
  generalize spanOf Numeral.isDigit spaced (full.length + 1) (full.dropWhile isBlank) = found'
    at hdigits ⊢
  obtain ⟨digits, rest⟩ := found
  obtain ⟨digits', rest'⟩ := found'
  obtain ⟨hvalue, hrest, hclosed⟩ := hdigits
  obtain rfl : digits' = digits := hvalue
  have hblanks := spanOf_alike (p := isBlank) spaced (by decide) hclosed (Nat.le_succ _)
    (Nat.le_succ _)
  simp only
  cases Numeral.nat? digits' with
  | none => exact .failed
  | some value =>
    simp only
    split_ifs
    · exact .read ⟨rfl, Nat.le_trans hblanks.length hrest, hblanks.rest⟩
    · exact .failed

/-- An upper bound after the comma, and what follows the closing brace. -/
def limited? (spaced : Bool) (least : Nat) (input : List Char) :
    Option (Nat × Option Nat × List Char) :=
  (count? spaced input).bind fun found =>
    match found.2 with
    | '\x7d' :: rest => if least ≤ found.1 then some (least, some found.1, rest) else none
    | _ => none

theorem limited?_agrees (least : Nat) (h : Closed input full) :
    Agrees (AlikePair input.length) never (limited? spaced least input)
      (limited? spaced least full) := by
  refine (count?_agrees h).bind_of_never ?_
  rintro ⟨most, rest⟩ ⟨_, rest'⟩ ⟨rfl, hlen, hclosed⟩
  cases hclosed with
  | lost => exact .failed
  | ended => exact .failed
  | cons c rest =>
    by_cases hbrace : c = '\x7d'
    · subst hbrace
      simp only
      split_ifs
      · exact .read ⟨rfl, Nat.le_of_succ_le hlen, .kept rest⟩
      · exact .failed
    · simp only [List.cons.injEq, hbrace, false_and, imp_false, not_false_eq_true, implies_true]
      exact .failed

/-- The bounds of a counted repetition after the lower one. -/
def boundsAfter? (spaced : Bool) (least : Nat) :
    List Char → Option (Nat × Option Nat × List Char)
  | '\x7d' :: rest => some (least, some least, rest)
  | ',' :: rest =>
    match skip spaced rest with
    | '\x7d' :: rest => some (least, none, rest)
    | rest => limited? spaced least rest
  | _ => none

theorem bounds?_eq (input : List Char) :
    bounds? spaced input = (count? spaced (skip spaced input)).bind fun found =>
      boundsAfter? spaced found.1 found.2 := by
  simp only [bounds?]
  refine congrArg _ (funext fun ⟨least, rest⟩ => ?_)
  rfl

theorem boundsAfter?_agrees (least : Nat) (h : Closed input full) :
    Agrees (AlikePair input.length) never (boundsAfter? spaced least input)
      (boundsAfter? spaced least full) := by
  cases h with
  | lost => exact .failed
  | ended => exact .failed
  | cons c rest =>
    by_cases hbrace : c = '\x7d'
    · subst hbrace
      exact .read ⟨rfl, Nat.le_succ _, .kept rest⟩
    by_cases hcomma : c = ','
    · subst hcomma
      have hskip := (Closed.kept rest).skip spaced
      have hlen := length_skip_le spaced rest
      simp only [List.cons_append, boundsAfter?]
      generalize skip spaced rest = found at hskip hlen ⊢
      generalize skip spaced (rest ++ closing) = found' at hskip ⊢
      have hlimited : Agrees (AlikePair (',' :: rest).length) never (limited? spaced least found)
          (limited? spaced least found') :=
        (limited?_agrees least hskip).mono fun r r' halike => halike.mono (Nat.le_succ_of_le hlen)
      cases hskip with
      | lost => exact hlimited
      | ended => exact hlimited
      | cons d left =>
        by_cases hclose : d = '\x7d'
        · subst hclose
          exact .read ⟨rfl, Nat.le_succ_of_le (Nat.le_of_succ_le hlen), .kept left⟩
        · simp only [List.cons_append, List.cons.injEq, hclose, false_and, imp_false,
            not_false_eq_true, implies_true]
          exact hlimited
    · simp only [List.cons_append, boundsAfter?, List.cons.injEq, hbrace, hcomma, false_and,
        imp_false, not_false_eq_true, implies_true]
      exact .failed

theorem bounds?_agrees (h : Closed input full) :
    Agrees (AlikePair input.length) never (bounds? spaced input) (bounds? spaced full) := by
  rw [bounds?_eq, bounds?_eq]
  have hlen := length_skip_le spaced input
  refine (count?_agrees (h.skip spaced)).bind_of_never ?_
  rintro ⟨least, rest⟩ ⟨_, rest'⟩ ⟨rfl, hrest, hclosed⟩
  refine (boundsAfter?_agrees _ hclosed).mono fun r r' halike => halike.mono ?_
  exact Nat.le_trans hrest hlen

/-- No number is between a brace and the closing. -/
theorem bounds?_none (h : skip spaced input = closing) : bounds? spaced input = none := by
  rw [bounds?_eq, h]
  cases spaced <;> rfl

theorem dropGreedMark_closed (h : Closed input full) :
    Closed (dropGreedMark input) (dropGreedMark full) := by
  cases h with
  | lost => exact .lost
  | ended => exact .kept []
  | cons c rest =>
    by_cases hmark : c = '?'
    · subst hmark
      exact .kept rest
    · simp only [List.cons_append, dropGreedMark, List.cons.injEq, hmark, false_and, imp_false,
        not_false_eq_true, implies_true]
      exact .kept (c :: rest)

theorem length_dropGreedMark_le (input : List Char) :
    (dropGreedMark input).length ≤ input.length := by
  unfold dropGreedMark
  split
  · exact Nat.le_succ _
  · exact Nat.le_refl _

theorem repetition?_agrees (sign : Char) (h : Closed input full) :
    Agrees (AlikePair input.length) never (repetition? spaced sign input)
      (repetition? spaced sign full) := by
  have hsign (least : Nat) (most : Option Nat) : Agrees (AlikePair input.length) never
      (some (least, most, dropGreedMark input)) (some (least, most, dropGreedMark full)) :=
    .read ⟨rfl, length_dropGreedMark_le input, dropGreedMark_closed h⟩
  simp only [repetition?]
  split
  · exact hsign 0 (some 1)
  · exact hsign 0 none
  · exact hsign 1 none
  · refine (bounds?_agrees h).map_of_never fun r r' hbounds => ⟨hbounds.value, ?_, ?_⟩
    · exact Nat.le_trans (length_dropGreedMark_le _)
        (Nat.le_trans (length_skip_le _ _) hbounds.length)
    · exact dropGreedMark_closed (hbounds.rest.skip spaced)

/-! ## What follows a parenthesis -/

theorem groupName?_agrees (names : List (List Char)) (h : Closed input full) :
    Agrees (Alike input.length) never (groupName? names input) (groupName? names full) := by
  have hlen := (List.dropWhile_suffix (l := input) (· ≠ '>')).length_le
  simp only [groupName?]
  obtain ⟨hnone, hnone'⟩ | ⟨d, rest, hfound, hfound', hname⟩ :=
    h.found_or_lost (p := (· ≠ '>')) (by decide) (by decide)
  · rw [hnone, hnone']
    cases input.takeWhile (· ≠ '>') <;> cases full.takeWhile (· ≠ '>') <;> exact .failed
  · rw [hfound, hfound', hname]
    rw [hfound, List.length_cons] at hlen
    cases input.takeWhile (· ≠ '>') with
    | nil => exact .failed
    | cons c more =>
      simp only
      split_ifs
      · exact .read ⟨rfl, Nat.le_of_succ_le hlen, .kept rest⟩
      · exact .failed

/-- The same flags have been read. -/
def SameDirective (most : Nat) (d d' : Flags.Directive) : Prop :=
  Alike most ((d.flags, d.isEmpty, d.opensGroup), d.rest)
    ((d'.flags, d'.isEmpty, d'.opensGroup), d'.rest)

/-- Flags have been read up to the parenthesis of the closing. -/
def DirectiveStray (d : Flags.Directive) : Prop :=
  d.rest = ['$'] ∧ d.opensGroup = false

theorem directive?_agrees (seen : List Char) (on : Bool) (h : Closed input full) :
    Agrees (SameDirective input.length) DirectiveStray (Flags.directive? flags seen on input)
      (Flags.directive? flags seen on full) := by
  obtain _ | _ := h
  · exact .failed
  · induction input generalizing flags seen on with
    | nil =>
      simp only [List.nil_append, closing, Flags.directive?, or_true, if_true]
      split_ifs
      · exact .failed
      · exact .stray ⟨rfl, rfl⟩
    | cons c rest ih =>
      have hle : rest.length ≤ (c :: rest).length := Nat.le_succ _
      have hmore (flags : Flags) (seen : List Char) (on : Bool) :
          Agrees (SameDirective (c :: rest).length) DirectiveStray
            (Flags.directive? flags seen on rest)
            (Flags.directive? flags seen on (rest ++ closing)) :=
        (ih seen on).mono fun d d' hsame => hsame.mono hle
      simp only [List.cons_append, Flags.directive?]
      split_ifs
      · exact .failed
      · exact .read ⟨rfl, hle, .kept rest⟩
      · exact .failed
      · exact hmore _ _ _
      · exact Agrees.bind_value fun flags => hmore _ _ _

/-- The same has been opened. -/
inductive SameOpening (most : Nat) : Opening → Opening → Prop
  | directive (flags : Flags) {rest rest' : List Char} :
      rest.length ≤ most → Closed rest rest' →
        SameOpening most (.directive flags rest) (.directive flags rest')
  | group (flags : Flags) (names : List (List Char)) {rest rest' : List Char} :
      rest.length ≤ most → Closed rest rest' →
        SameOpening most (.group flags names rest) (.group flags names rest')

theorem SameOpening.mono {least most : Nat} {o o' : Opening} (h : SameOpening least o o')
    (hle : least ≤ most) : SameOpening most o o' := by
  cases h with
  | directive flags hlen hclosed => exact .directive flags (Nat.le_trans hlen hle) hclosed
  | group flags names hlen hclosed => exact .group flags names (Nat.le_trans hlen hle) hclosed

def OpeningStray (o : Opening) : Prop :=
  ∃ flags, o = .directive flags ['$']

/-- What follows the name of a group. -/
def named? (flags : Flags) (names : List (List Char)) (rest : List Char) : Option Opening :=
  (groupName? names rest).map fun found => .group flags (found.1 :: names) found.2

theorem named?_agrees (names : List (List Char)) (h : Closed input full) :
    Agrees (SameOpening input.length) OpeningStray (named? flags names input)
      (named? flags names full) := by
  refine (groupName?_agrees names h).map_of_never ?_
  rintro ⟨name, rest⟩ ⟨_, rest'⟩ ⟨rfl, hlen, hclosed⟩
  exact .group flags _ hlen hclosed

/-- What follows letters of flags. -/
def flagged? (flags : Flags) (names : List (List Char)) (rest : List Char) : Option Opening :=
  (Flags.directive? flags [] true rest).bind fun found =>
    if found.opensGroup then some (.group found.flags names found.rest)
    else if found.isEmpty then none
    else some (.directive found.flags found.rest)

theorem flagged?_agrees (names : List (List Char)) (h : Closed input full) :
    Agrees (SameOpening input.length) OpeningStray (flagged? flags names input)
      (flagged? flags names full) := by
  refine (directive?_agrees [] true h).bind ?_ ?_
  · rintro ⟨flags, isEmpty, opensGroup, rest⟩ ⟨_, _, _, rest'⟩ ⟨hvalue, hlen, hclosed⟩
    cases hvalue
    simp only
    split_ifs
    · exact .read (.group flags names hlen hclosed)
    · exact .failed
    · exact .read (.directive flags hlen hclosed)
  · rintro ⟨flags, isEmpty, _, _⟩ ⟨rfl, rfl⟩
    simp only [Bool.false_eq_true, if_false]
    split_ifs
    · exact .failed
    · exact .stray ⟨flags, rfl⟩

/-- What follows a question mark. -/
def marked? (flags : Flags) (names : List (List Char)) : List Char → Option Opening
  | 'P' :: '<' :: rest | '<' :: rest => named? flags names rest
  | rest => flagged? flags names rest

theorem marked?_agrees (names : List (List Char)) (rest : List Char) :
    Agrees (SameOpening rest.length) OpeningStray (marked? flags names rest)
      (marked? flags names (rest ++ closing)) := by
  have hflagged : Agrees (SameOpening rest.length) OpeningStray (flagged? flags names rest)
      (flagged? flags names (rest ++ closing)) :=
    flagged?_agrees names (.kept rest)
  have hnamed (left : List Char) (hle : left.length ≤ rest.length) :
      Agrees (SameOpening rest.length) OpeningStray (named? flags names left)
        (named? flags names (left ++ closing)) :=
    (named?_agrees names (.kept left)).mono fun o o' hsame => hsame.mono hle
  cases rest with
  | nil => exact hflagged
  | cons c rest =>
    by_cases hname : c = '<'
    · subst hname
      exact hnamed rest (Nat.le_succ _)
    by_cases hletter : c = 'P'
    · subst hletter
      cases rest with
      | nil => exact hflagged
      | cons d rest =>
        by_cases hname : d = '<'
        · subst hname
          exact hnamed rest (Nat.le_add_right _ 2)
        · simpa [marked?, hname] using hflagged
    · simpa [marked?, hname, hletter] using hflagged

theorem opening?_eq (scan : Scan) (input : List Char) :
    opening? scan input =
      match skip scan.flags.spaced input with
      | '?' :: rest => marked? scan.flags scan.names rest
      | rest => some (.group scan.flags scan.names rest) := by
  simp only [opening?]
  generalize skip scan.flags.spaced input = found
  split
  · rfl
  · rfl
  · simp_all [marked?, flagged?]
  · simp_all

theorem opening?_agrees (names : List (List Char)) (h : Closed input full)
    (whole whole' : List Char) :
    Agrees (SameOpening input.length) OpeningStray (opening? ⟨whole, flags, names⟩ input)
      (opening? ⟨whole', flags, names⟩ full) := by
  rw [opening?_eq, opening?_eq]
  refine h.skip_cases ?lost ?ended ?cons
  case lost => exact .read (.group flags names (Nat.zero_le _) .lost)
  case ended => exact .read (.group flags names (Nat.zero_le _) (.kept []))
  case cons =>
    intro c rest hlen hlen'
    by_cases hmark : c = '?'
    · subst hmark
      exact (marked?_agrees names rest).mono fun o o' hsame => hsame.mono (Nat.le_of_lt hlen)
    · simp only [List.cons.injEq, hmark, false_and, imp_false, not_false_eq_true, implies_true]
      exact .read (.group flags names hlen (.kept (c :: rest)))

/-! ## Single parts -/

/-- What a single part may read where the plain input ends. -/
def PrimitiveStray (spaced : Bool) (r : Item × List Char) : Prop :=
  DollarLeft r ∨ BraceLeft spaced r

/-- The part of an expression that an escape is. -/
def Atom.item (flags : Flags) : Atom → Item
  | .literal c => { node := Pattern.literal flags c }
  | .set s => { node := .char s }
  | .look assertion => { node := .look assertion }

theorem primitive?_backslash (flags : Flags) (rest : List Char) :
    primitive? flags '\\' rest =
      (escape? flags rest).map fun found => (found.1.item flags, found.2) := by
  simp only [primitive?]
  refine congrArg (Option.map · _) (funext fun ⟨atom, rest⟩ => ?_)
  cases atom <;> rfl

theorem primitive?_agrees (c : Char) (h : Closed input full) :
    Agrees (Alike input.length) (PrimitiveStray flags.spaced) (primitive? flags c input)
      (primitive? flags c full) := by
  have hle : input.length ≤ input.length := Nat.le_refl _
  by_cases hslash : c = '\\'
  · subst hslash
    rw [primitive?_backslash, primitive?_backslash]
    refine (escape?_agrees h).map (fun r r' hatom => hatom.map (Atom.item flags) hle) ?_
    rintro ⟨atom, rest⟩ (hdollar | ⟨-, hbrace⟩)
    · exact .inl hdollar
    · exact .inr hbrace
  simp only [primitive?]
  split
  · contradiction
  · refine (Bracket.read?_agrees h).map_of_never fun r r' hclass => ?_
    exact hclass.map (fun found : Bracket => Item.mk (.char found.set) found.depth false) hle
  · exact Agrees.map_value fun node => ⟨rfl, hle, h⟩
  · exact .read ⟨rfl, hle, h⟩
  · exact .read ⟨rfl, hle, h⟩
  · exact .read ⟨rfl, hle, h⟩

/-! ## Groups -/

/-- The same part has been read, and the same flags and names hold. -/
def SameGroup (most : Nat) (r r' : Item × Scan) : Prop :=
  Alike most ((r.1, r.2.flags, r.2.names), r.2.rest) ((r'.1, r'.2.flags, r'.2.names), r'.2.rest)

/-- The parenthesis of the closing has been read inside a group, which nothing ends then. -/
def GroupStray (r : Item × Scan) : Prop := r.2.rest = []

/-- What follows a group inside another one. -/
def groupAfter? (fuel : Nat) (flags : Flags) (branches items : List Item) (found : Item × Scan) :
    Option (Item × Scan) :=
  match found.2.rest with
  | ')' :: rest =>
    readGroup? fuel { rest, flags, names := found.2.names } branches
      ({ node := found.1.node, depth := found.1.depth + 1 } :: items)
  | _ => none

/-- A group from where its next part starts. -/
def partsAfter? (fuel : Nat) (flags : Flags) (names : List (List Char))
    (branches items : List Item) : List Char → Option (Item × Scan)
  | [] => some (Item.alternatives (Item.sequence items :: branches), ⟨[], flags, names⟩)
  | c :: rest =>
    if c = ')' then
      some (Item.alternatives (Item.sequence items :: branches), ⟨c :: rest, flags, names⟩)
    else if c = '|' then
      readGroup? fuel ⟨rest, flags, names⟩ (Item.sequence items :: branches) []
    else if c = '(' then
      (opening? ⟨rest, flags, names⟩ rest).bind fun
        | .directive flags rest =>
          readGroup? fuel ⟨rest, flags, names⟩ branches
            ({ node := .empty, isDirective := true } :: items)
        | .group inner names rest =>
          (readGroup? fuel ⟨rest, inner, names⟩ [] []).bind (groupAfter? fuel flags branches items)
    else if isRepetition c then
      (repetition? flags.spaced c rest).bind fun found =>
        (repeatLast? found.1 found.2.1 items).bind fun items =>
          readGroup? fuel ⟨found.2.2, flags, names⟩ branches items
    else
      (primitive? flags c rest).bind fun found =>
        readGroup? fuel ⟨found.2, flags, names⟩ branches (found.1 :: items)

theorem readGroup?_succ (n : Nat) (scan : Scan) (branches items : List Item) :
    readGroup? (n + 1) scan branches items =
      partsAfter? n scan.flags scan.names branches items (skip scan.flags.spaced scan.rest) := by
  simp only [readGroup?]
  generalize skip scan.flags.spaced scan.rest = found
  cases found with
  | nil => rfl
  | cons c rest =>
    simp only [partsAfter?]
    split_ifs
    · rfl
    · rfl
    · have hopening : opening? scan rest = opening? ⟨rest, scan.flags, scan.names⟩ rest := by
        rw [opening?_eq, opening?_eq]
      rw [hopening]
      cases opening? ⟨rest, scan.flags, scan.names⟩ rest with
      | none => rfl
      | some opening => cases opening <;> rfl
    · rfl
    · rfl

theorem readGroup?_ended {same : Item × Scan → Item × Scan → Prop} (m : Nat)
    (names : List (List Char)) (branches items : List Item) :
    Agrees same GroupStray none (readGroup? m ⟨[], flags, names⟩ branches items) := by
  cases m with
  | zero => exact .failed
  | succ m =>
    rw [readGroup?_succ]
    have hskip : skip flags.spaced [] = [] := by cases flags.spaced <;> rfl
    simp only [hskip, partsAfter?]
    exact .stray rfl

theorem readGroup?_dollar {same : Item × Scan → Item × Scan → Prop} (m : Nat)
    (names : List (List Char)) (branches items : List Item) :
    Agrees same GroupStray none (readGroup? m ⟨['$'], flags, names⟩ branches items) := by
  cases m with
  | zero => exact .failed
  | succ m =>
    rw [readGroup?_succ, skip_dollar]
    exact readGroup?_ended m names branches _

theorem readGroup?_brace {rest : List Char} (hskip : skip flags.spaced rest = closing) (m : Nat)
    (names : List (List Char)) (branches items : List Item) :
    readGroup? m ⟨'\x7b' :: rest, flags, names⟩ branches items = none := by
  cases m with
  | zero => rfl
  | succ m =>
    have hstart : skip flags.spaced ('\x7b' :: rest) = '\x7b' :: rest := by
      cases flags.spaced <;> rfl
    rw [readGroup?_succ, hstart]
    show (repetition? flags.spaced '\x7b' rest).bind _ = none
    simp only [repetition?, bounds?_none hskip]
    rfl

theorem groupAfter?_agrees {most bound : Nat} {branches items : List Item}
    {found found' : Item × Scan} (hsame : SameGroup most found found')
    (hmore : ∀ {left : List Char}, left.length ≤ most → ∀ (names : List (List Char))
      (items : List Item), Agrees (SameGroup bound) GroupStray
        (readGroup? n ⟨left, flags, names⟩ branches items)
        (readGroup? m ⟨left ++ closing, flags, names⟩ branches items)) :
    Agrees (SameGroup bound) GroupStray (groupAfter? n flags branches items found)
      (groupAfter? m flags branches items found') := by
  obtain ⟨item, rest, _, names⟩ := found
  obtain ⟨_, rest', _, _⟩ := found'
  obtain ⟨hvalue, hlen, hclosed⟩ := hsame
  cases hvalue
  simp only [groupAfter?]
  cases hclosed with
  | lost => exact .failed
  -- by itself the group stays open; the closing ends it
  | ended => exact readGroup?_dollar m names branches _
  | cons c rest =>
    by_cases hparen : c = ')'
    · subst hparen
      exact hmore (Nat.le_of_succ_le hlen) names _
    · simp only [List.cons.injEq, hparen, false_and, imp_false, not_false_eq_true, implies_true]
      exact .failed

/-- **Groups.** With the closing after it a group is read as it is by itself. Where it cannot be read
by itself, reading fails or takes all of the closing. -/
theorem readGroup?_agrees (h : Closed input full) (hn : input.length < n) (hm : full.length < m)
    (flags : Flags) (names : List (List Char)) (branches items : List Item) :
    Agrees (SameGroup input.length) GroupStray (readGroup? n ⟨input, flags, names⟩ branches items)
      (readGroup? m ⟨full, flags, names⟩ branches items) := by
  induction n generalizing m input full flags names branches items with
  | zero => omega
  | succ n ih =>
    obtain ⟨m, rfl⟩ : ∃ k, m = k + 1 := ⟨m - 1, by omega⟩
    rw [readGroup?_succ, readGroup?_succ]
    refine h.skip_cases ?lost ?ended ?cons
    case lost => exact .read ⟨rfl, Nat.zero_le _, .lost⟩
    case ended => exact .read ⟨rfl, Nat.zero_le _, .kept []⟩
    case cons =>
      intro c rest hlen hlen'
      -- every part leaves less than it is given, so that the fuel of both runs suffices
      have hinner {left left' : List Char} (hle : left.length ≤ rest.length)
          (hclosed : Closed left left') (flags : Flags) (names : List (List Char))
          (branches items : List Item) :
          Agrees (SameGroup rest.length) GroupStray
            (readGroup? n ⟨left, flags, names⟩ branches items)
            (readGroup? m ⟨left', flags, names⟩ branches items) := by
        have hle' := hclosed.length_le
        refine (ih hclosed (by omega) (by omega) flags names branches items).mono ?_
        exact fun r r' hsame => Alike.mono hsame hle
      have hmore {left left' : List Char} (hle : left.length ≤ rest.length)
          (hclosed : Closed left left') (names : List (List Char)) (flags : Flags)
          (branches items : List Item) :
          Agrees (SameGroup input.length) GroupStray
            (readGroup? n ⟨left, flags, names⟩ branches items)
            (readGroup? m ⟨left', flags, names⟩ branches items) :=
        (hinner hle hclosed flags names branches items).mono fun r r' hsame =>
          Alike.mono hsame (Nat.le_of_lt hlen)
      simp only [partsAfter?]
      split_ifs
      · exact .read ⟨rfl, hlen, .kept (c :: rest)⟩
      · exact hmore (Nat.le_refl _) (.kept rest) names flags _ _
      · refine (opening?_agrees names (.kept rest) _ _).bind ?_ ?_
        · intro opening opening' hsame
          cases hsame with
          | directive flags hleft hclosed => exact hmore hleft hclosed names flags branches _
          | @group inner names left left' hleft hclosed =>
            refine (hinner hleft hclosed inner names [] []).bind ?_ ?_
            · intro found found' hsame
              exact groupAfter?_agrees hsame fun hle names items =>
                hmore hle (.kept _) names flags branches items
            · rintro ⟨item, _, _, _⟩ rfl
              exact .failed
        · rintro _ ⟨flags, rfl⟩
          exact readGroup?_dollar m names branches _
      · refine (repetition?_agrees c (.kept rest)).bind_of_never ?_
        rintro ⟨least, most, left⟩ ⟨_, _, left'⟩ ⟨hvalue, hleft, hclosed⟩
        cases hvalue
        exact Agrees.bind_value fun items => hmore hleft hclosed names flags branches items
      · refine (primitive?_agrees c (.kept rest)).bind ?_ ?_
        · rintro ⟨item, left⟩ ⟨_, left'⟩ ⟨rfl, hleft, hclosed⟩
          exact hmore hleft hclosed names flags branches _
        · rintro ⟨item, left⟩ (rfl | ⟨left, rfl, hskip⟩)
          · exact readGroup?_dollar m names branches _
          · rw [readGroup?_brace hskip]
            exact .failed

/-! ## Fuel -/

/-- What a group leaves is no longer than what it is given. -/
theorem length_readGroup?_le {names : List (List Char)} {branches items : List Item}
    {r : Item × Scan} (h : readGroup? n ⟨input, flags, names⟩ branches items = some r)
    (hn : input.length < n) : r.2.rest.length ≤ input.length := by
  obtain ⟨r', -, hsame⟩ := (readGroup?_agrees (.kept input) hn (Nat.lt_succ_self _) flags names
    branches items).exists_same h
  exact hsame.length

theorem readGroup?_fuel (hn : input.length < n) (hm : input.length < m) (flags : Flags)
    (names : List (List Char)) (branches items : List Item) :
    readGroup? n ⟨input, flags, names⟩ branches items =
      readGroup? m ⟨input, flags, names⟩ branches items := by
  induction n generalizing m input flags names branches items with
  | zero => omega
  | succ n ih =>
    obtain ⟨m, rfl⟩ : ∃ k, m = k + 1 := ⟨m - 1, by omega⟩
    rw [readGroup?_succ, readGroup?_succ]
    have hlen := length_skip_le flags.spaced input
    simp only
    generalize skip flags.spaced input = found at hlen ⊢
    cases found with
    | nil => rfl
    | cons c rest =>
      rw [List.length_cons] at hlen
      have hmore {left : List Char} (hle : left.length ≤ rest.length) (flags : Flags)
          (names : List (List Char)) (branches items : List Item) :
          readGroup? n ⟨left, flags, names⟩ branches items =
            readGroup? m ⟨left, flags, names⟩ branches items :=
        ih (by omega) (by omega) flags names branches items
      simp only [partsAfter?]
      split_ifs
      · rfl
      · exact hmore (Nat.le_refl _) flags names _ _
      · refine Option.bind_congr fun opening hopening => ?_
        obtain ⟨_, -, hsame⟩ := (opening?_agrees names (.kept rest) rest []).exists_same hopening
        cases hsame with
        | directive flags hle => exact hmore hle flags names branches _
        | group inner names hle =>
          simp only [hmore hle inner names [] []]
          refine Option.bind_congr fun found hfound => ?_
          have hle' := Nat.le_trans (length_readGroup?_le hfound (by omega)) hle
          simp only [groupAfter?]
          split
          case h_1 left hleft =>
            rw [hleft] at hle'
            exact hmore (Nat.le_of_succ_le hle') flags found.2.names branches _
          case h_2 => rfl
      · refine Option.bind_congr fun found hfound => ?_
        obtain ⟨_, -, hsame⟩ := (repetition?_agrees c (.kept rest)).exists_same hfound
        exact Option.bind_congr fun items _ => hmore hsame.length flags names branches items
      · refine Option.bind_congr fun found hfound => ?_
        obtain ⟨_, -, hsame⟩ := (primitive?_agrees c (.kept rest)).exists_same hfound
        exact hmore hsame.length flags names branches _

end FederatedAccess.Pattern
