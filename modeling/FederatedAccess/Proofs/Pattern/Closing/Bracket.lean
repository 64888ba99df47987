import FederatedAccess.Proofs.Pattern.Closing.Escape

/-!
# Bracketed classes with the closing

A class is read to its closing bracket, and there is none in the closing of a pattern. So a class
that its input leaves open stays open (`Bracket.read?_agrees`).
-/

namespace FederatedAccess.Pattern.Bracket

open Text

variable {flags : Flags} {spaced : Bool} {input full : List Char} {n m : Nat}

/-! ## Named classes -/

/-- What follows the mark of a negated class, or the input if there is none. -/
theorem closed_afterMark (spaced : Bool) (h : Closed input full) :
    Closed (if input.head? = some '^' then skip spaced (input.drop 1) else input)
      (if full.head? = some '^' then skip spaced (full.drop 1) else full) := by
  cases h with
  | lost => exact .lost
  | ended => exact .kept []
  | cons c rest =>
    simp only [List.cons_append, List.head?_cons, List.drop_one, List.tail_cons]
    split_ifs
    · exact (Closed.kept rest).skip spaced
    · exact .kept (c :: rest)

theorem length_afterMark_le (spaced : Bool) (input : List Char) :
    (if input.head? = some '^' then skip spaced (input.drop 1) else input).length ≤
      input.length := by
  split_ifs
  · exact Nat.le_trans (length_skip_le _ _) (by simp)
  · exact Nat.le_refl _

/-- The class with a name, if what follows the name closes it. -/
def namedClass? (negated : Bool) (name : List Char) :
    List Char → Option (Bool × CodePoints × List Char)
  | ':' :: ']' :: rest =>
    (asciiClasses.find? fun entry => entry.1.toList = name).map fun entry =>
      (negated, entry.2, rest)
  | _ => none

theorem namedClass?_agrees (negated : Bool) (name : List Char) (h : Closed input full) :
    Agrees (AlikePair input.length) never (namedClass? negated name input)
      (namedClass? negated name full) := by
  cases h with
  | lost => exact .failed
  | ended => exact .failed
  | cons c rest =>
    by_cases hcolon : c = ':'
    · subst hcolon
      cases rest with
      | nil => exact .failed
      | cons d rest =>
        by_cases hbracket : d = ']'
        · subst hbracket
          exact Agrees.map_value fun entry => ⟨rfl, Nat.le_add_right _ 2, .kept rest⟩
        · simp only [List.cons_append, namedClass?, List.cons.injEq, hbracket, false_and, and_false,
            imp_false, not_false_eq_true, implies_true]
          exact .failed
    · simp only [List.cons_append, namedClass?, List.cons.injEq, hcolon, false_and, imp_false,
        not_false_eq_true, implies_true]
      exact .failed

theorem asciiClass?_agrees (h : Closed input full) :
    Agrees (AlikePair input.length) never (asciiClass? input) (asciiClass? full) := by
  cases h with
  | lost => exact .failed
  | ended => exact .failed
  | cons c rest =>
    by_cases hcolon : c = ':'
    · subst hcolon
      have hname : Closed (if rest.head? = some '^' then rest.drop 1 else rest)
          (if (rest ++ closing).head? = some '^' then (rest ++ closing).drop 1
            else rest ++ closing) :=
        closed_afterMark false (.kept rest)
      have hcaret := (Closed.kept rest).head?_eq_iff (c := '^') (by decide)
      have hlen : (if rest.head? = some '^' then rest.drop 1 else rest).length ≤ rest.length :=
        length_afterMark_le false rest
      simp only [List.cons_append, asciiClass?, hcaret] at hname ⊢
      generalize (if rest.head? = some '^' then rest.drop 1 else rest) = name at hname hlen ⊢
      generalize (if rest.head? = some '^' then (rest ++ closing).drop 1
        else rest ++ closing) = name' at hname ⊢
      have hdrop := (List.dropWhile_suffix (l := name) (· ≠ ':')).length_le
      obtain ⟨hnone, hnone'⟩ | ⟨d, after, hfound, hfound', htext⟩ :=
        hname.found_or_lost (p := (· ≠ ':')) (by decide) (by decide)
      · rw [hnone, hnone']
        exact .failed
      · rw [hfound, hfound', htext]
        rw [hfound] at hdrop
        have hle := Nat.le_succ_of_le (Nat.le_trans hdrop hlen)
        exact (namedClass?_agrees _ _ (.kept (d :: after))).mono fun r r' h => h.mono hle
    · simp only [List.cons_append, asciiClass?, List.cons.injEq, hcolon, false_and, imp_false,
        not_false_eq_true, implies_true]
      exact .failed

/-! ## Members -/

theorem atom?_agrees (h : Closed input full) :
    Agrees (Alike (input.length - 1)) (EscapeStray flags.spaced) (atom? flags input)
      (atom? flags full) := by
  cases h with
  | lost => exact .failed
  | ended => exact .stray (.inl rfl)
  | cons c rest =>
    by_cases hslash : c = '\\'
    · subst hslash
      exact escape?_agrees (.kept rest)
    · simp only [List.cons_append, atom?]
      exact .read ⟨rfl, Nat.le_refl _, .kept rest⟩

/-- The set of a single member. -/
def single? (flags : Flags) : Atom → Option CharSet
  | .literal a => (member? flags a).map .single
  | .set s => some s
  | .look _ => none

/-- The set of a range between two members. -/
def interval? (flags : Flags) : Atom → Atom → Option CharSet
  | .literal a, .literal b =>
    (member? flags a).bind fun low => (member? flags b).bind fun high =>
      if low ≤ high then some (.points [(low.toNat, high.toNat)]) else none
  | _, _ => none

/-- What follows the first part of a range. -/
def rangeAfter? (flags : Flags) (first : Atom) : List Char → Option (CharSet × List Char)
  | [] => none
  | c :: rest =>
    if c ≠ '-' ∨ lookAhead? flags.spaced rest = some ']' ∨
        lookAhead? flags.spaced rest = some '-' then
      (single? flags first).map (·, c :: rest)
    else
      (atom? flags (skip flags.spaced rest)).bind fun last =>
        (interval? flags first last.1).map (·, last.2)

theorem range?_eq (input : List Char) :
    range? flags input = (atom? flags input).bind fun first =>
      rangeAfter? flags first.1 (skip flags.spaced first.2) := by
  simp only [range?]
  refine congrArg _ (funext fun ⟨first, rest⟩ => ?_)
  cases skip flags.spaced rest with
  | nil => rfl
  | cons c rest =>
    simp only [rangeAfter?]
    split_ifs
    · cases first with
      | literal a => simp only [single?, Option.map_map]; exact Option.map_eq_bind.symm
      | set s => rfl
      | look assertion => rfl
    · refine congrArg _ (funext fun ⟨last, rest⟩ => ?_)
      cases first <;> cases last <;> simp only [interval?, Option.map_none]
      case literal.literal a b =>
        cases member? flags a with
        | none => rfl
        | some low =>
          cases member? flags b with
          | none => rfl
          | some high =>
            show (if low ≤ high then _ else _) = Option.map _ (if low ≤ high then _ else _)
            split_ifs <;> rfl

theorem interval?_look_right (first : Atom) (assertion : Assertion) :
    interval? flags first (.look assertion) = none := by
  cases first <;> rfl

/-- No range starts with an assertion. -/
theorem rangeAfter?_look (assertion : Assertion) (rest : List Char) :
    rangeAfter? flags (.look assertion) rest = none := by
  cases rest with
  | nil => rfl
  | cons c rest =>
    simp only [rangeAfter?]
    split_ifs
    · rfl
    · cases atom? flags (skip flags.spaced rest) <;> rfl

theorem rangeAfter?_closing (first : Atom) :
    rangeAfter? flags first closing = (single? flags first).map (·, closing) := by
  simp only [closing, rangeAfter?]
  exact if_pos (.inl (by decide))

theorem rangeAfter?_dollar (first : Atom) :
    rangeAfter? flags first ['$'] = (single? flags first).map (·, ['$']) := by
  simp only [rangeAfter?]
  exact if_pos (.inl (by decide))

/-- A member may be read where the plain input ends: one that something must follow, with the
closing left, or one with the parenthesis. -/
def MemberStray (r : CharSet × List Char) : Prop :=
  r.2 = closing ∨ DollarLeft r

theorem range?_agrees (c : Char) (input : List Char) :
    Agrees (Alike input.length) MemberStray (range? flags (c :: input))
      (range? flags (c :: (input ++ closing))) := by
  rw [range?_eq, range?_eq]
  refine (atom?_agrees (.kept (c :: input))).bind ?_ ?_
  · rintro ⟨first, rest⟩ ⟨_, rest'⟩ ⟨rfl, hlen, hclosed⟩
    refine hclosed.skip_cases ?lost ?ended ?cons
    case lost => exact .failed
    case ended =>
      rw [rangeAfter?_closing]
      exact Agrees.none_map fun set => .inl rfl
    case cons =>
      intro d after hlen' hlen''
      have hafter : Closed after (after ++ closing) := .kept after
      simp only [rangeAfter?, hafter.lookAhead?_eq_iff (c := ']') (by decide),
        hafter.lookAhead?_eq_iff (c := '-') (by decide)]
      have hle : (d :: after).length ≤ input.length := Nat.le_trans hlen' hlen
      split_ifs
      · exact Agrees.map_value fun set => ⟨rfl, hle, .kept (d :: after)⟩
      · refine (atom?_agrees (hafter.skip flags.spaced)).bind ?_ ?_
        · rintro ⟨last, left⟩ ⟨_, left'⟩ ⟨rfl, hleft, hclosed⟩
          have hskip := length_skip_le flags.spaced after
          rw [List.length_cons] at hle
          simp only at hleft
          refine Agrees.map_value fun set => ⟨rfl, ?_, hclosed⟩
          simp only
          omega
        · rintro ⟨last, left⟩ (rfl | ⟨⟨assertion, rfl⟩, -⟩)
          · exact Agrees.none_map fun set => .inr rfl
          · rw [interval?_look_right]
            exact .failed
  · rintro ⟨first, rest⟩ (rfl | ⟨⟨assertion, rfl⟩, left, rfl, -⟩)
    · rw [skip_dollar, rangeAfter?_dollar]
      exact Agrees.none_map fun set => .inr rfl
    · rw [rangeAfter?_look]
      exact .failed

/-! ## The start of a class -/

theorem openingHyphens_eq_spanOf (n : Nat) (p : Partial) (input : List Char) :
    openingHyphens spaced n p input =
      ((spanOf (· = '-') spaced n input).1.foldl (fun p _ => p.add ⟨.single '-', 0⟩) p,
        (spanOf (· = '-') spaced n input).2) := by
  induction n generalizing p input with
  | zero => rfl
  | succ n ih =>
    cases input with
    | nil => rfl
    | cons c rest =>
      by_cases hhyphen : c = '-'
      · subst hhyphen
        simp only [openingHyphens, ih]
        rfl
      · simp [openingHyphens, spanOf, hhyphen]

theorem openingHyphens_alike (spaced : Bool) (p : Partial) (h : Closed input full)
    (hn : input.length ≤ n) (hm : full.length ≤ m) :
    Alike input.length (openingHyphens spaced n p input) (openingHyphens spaced m p full) := by
  rw [openingHyphens_eq_spanOf, openingHyphens_eq_spanOf]
  exact (spanOf_alike spaced (by decide) h hn hm).map (List.foldl _ p) (Nat.le_refl _)

/-- The start of a class after its hyphens: a closing bracket that comes first is a member. -/
def withBracket (flags : Flags) (negated : Bool) (found : Partial × List Char) :
    Bool × Partial × List Char :=
  match found.2 with
  | ']' :: after =>
    if found.1.members.isEmpty then
      (negated, found.1.add ⟨.single ']', 0⟩, skip flags.spaced after)
    else (negated, found.1, found.2)
  | _ => (negated, found.1, found.2)

theorem withBracket_alike {most : Nat} {negated : Bool} {found found' : Partial × List Char}
    (h : Alike most found found') :
    (withBracket flags negated found').1 = (withBracket flags negated found).1 ∧
      Alike most (withBracket flags negated found).2 (withBracket flags negated found').2 := by
  obtain ⟨p, rest⟩ := found
  obtain ⟨_, rest'⟩ := found'
  obtain ⟨rfl, hlen, hclosed⟩ := h
  cases hclosed with
  | lost => exact ⟨rfl, rfl, hlen, .lost⟩
  | ended => exact ⟨rfl, rfl, hlen, .kept []⟩
  | cons c rest =>
    by_cases hbracket : c = ']'
    · subst hbracket
      simp only [withBracket]
      split_ifs
      · refine ⟨rfl, rfl, ?_, (Closed.kept rest).skip flags.spaced⟩
        exact Nat.le_trans (length_skip_le _ _) (Nat.le_of_succ_le hlen)
      · exact ⟨rfl, rfl, hlen, .kept _⟩
    · simp only [withBracket, List.cons.injEq, hbracket, false_and, imp_false, not_false_eq_true,
        implies_true]
      exact ⟨trivial, rfl, hlen, .kept (c :: rest)⟩

theorem opening_alike (flags : Flags) (h : Closed input full) :
    (opening flags full).1 = (opening flags input).1 ∧
      Alike input.length (opening flags input).2 (opening flags full).2 := by
  have hskip := h.skip flags.spaced
  have hlen := length_skip_le flags.spaced input
  simp only [opening]
  generalize skip flags.spaced input = start at hskip hlen ⊢
  generalize skip flags.spaced full = start' at hskip ⊢
  have hcaret := hskip.head?_eq_iff (c := '^') (by decide)
  have hmark := closed_afterMark flags.spaced hskip
  have hlen' := length_afterMark_le flags.spaced start
  simp only [hcaret] at hmark ⊢
  generalize (if start.head? = some '^' then skip flags.spaced (start.drop 1) else start) = body
    at hmark hlen' ⊢
  generalize (if start.head? = some '^' then skip flags.spaced (start'.drop 1) else start') = body'
    at hmark ⊢
  have hhyphens := (openingHyphens_alike flags.spaced {} hmark (Nat.le_refl _) (Nat.le_refl _)).mono
    (Nat.le_trans hlen' hlen)
  exact withBracket_alike hhyphens

/-! ## Brackets -/

/-- An operation between two classes, and what follows. -/
def operation? : List Char → Option (Operation × List Char)
  | '&' :: '&' :: rest => some (.intersection, rest)
  | '-' :: '-' :: rest => some (.difference, rest)
  | '~' :: '~' :: rest => some (.symmetricDifference, rest)
  | _ => none

theorem operation?_agrees (c : Char) (rest : List Char) :
    Agrees (Alike rest.length) never (operation? (c :: rest))
      (operation? (c :: (rest ++ closing))) := by
  cases rest with
  | nil =>
    simp only [operation?, List.nil_append, closing]
    split <;> simp_all
    exact .failed
  | cons d rest =>
    have hread (operation : Operation) : Agrees (Alike (d :: rest).length) never
        (some (operation, rest)) (some (operation, rest ++ closing)) :=
      .read ⟨rfl, Nat.le_succ _, .kept rest⟩
    simp only [List.cons_append, operation?]
    split
    · simp_all
    · simp_all
    · simp_all
    · simp_all
      exact .failed

/-- A class inside another one after its opening bracket, and what follows. -/
def inner? (flags : Flags) (fuel : Nat) (rest : List Char) : Option (Bracket × List Char) :=
  match asciiClass? rest with
  | some found => (finishSet? flags found.1 (.points found.2.1)).map (⟨·, 0⟩, found.2.2)
  | none =>
    let start := opening flags rest
    (readMembers? flags fuel start.2.1 start.2.2).bind fun found =>
      (finishSet? flags start.1 found.1.set).map (⟨·, found.1.depth + 1⟩, found.2)

/-- The members from where the next one starts. -/
def membersAfter? (flags : Flags) (fuel : Nat) (p : Partial) :
    List Char → Option (Bracket × List Char)
  | [] => none
  | c :: rest =>
    if c = ']' then some (p.bracket flags, rest)
    else match operation? (c :: rest) with
      | some found => readMembers? flags fuel (p.operate flags found.1) found.2
      | none =>
        if c = '[' then
          (inner? flags fuel rest).bind fun found => readMembers? flags fuel (p.add found.1) found.2
        else
          (range? flags (c :: rest)).bind fun found =>
            readMembers? flags fuel (p.add ⟨found.1, 0⟩) found.2

theorem readMembers?_succ (n : Nat) (p : Partial) (input : List Char) :
    readMembers? flags (n + 1) p input = membersAfter? flags n p (skip flags.spaced input) := by
  simp only [readMembers?]
  generalize skip flags.spaced input = found
  split
  · rfl
  · simp [membersAfter?]
  · simp [membersAfter?, operation?]
  · simp [membersAfter?, operation?]
  · simp [membersAfter?, operation?]
  · rename_i rest
    simp only [membersAfter?, operation?, inner?]
    cases asciiClass? rest with
    | some found =>
      simp only [Option.bind_eq_bind, Option.bind_map]
      rfl
    | none =>
      simp only [Option.bind_eq_bind, Option.bind_assoc, Option.bind_map]
      rfl
  · cases found with
    | nil => contradiction
    | cons c rest => simp_all [membersAfter?, operation?]

/-! ## Whole classes -/

theorem range?_dollar : range? flags ['$'] = none := by
  rw [range?_eq]
  cases hspaced : flags.spaced <;> rfl

theorem readMembers?_dollar (m : Nat) (p : Partial) : readMembers? flags m p ['$'] = none := by
  cases m with
  | zero => rfl
  | succ m =>
    rw [readMembers?_succ, skip_dollar]
    show (range? flags ['$']).bind _ = none
    rw [range?_dollar]
    rfl

theorem membersAfter?_closing (m : Nat) (p : Partial) :
    membersAfter? flags m p closing = none := by
  have hrange : range? flags closing = (single? flags (.literal ')')).map (·, ['$']) := by
    rw [range?_eq]
    show rangeAfter? flags (.literal ')') (skip flags.spaced ['$']) = _
    rw [skip_dollar, rangeAfter?_dollar]
  show (range? flags closing).bind _ = none
  rw [hrange]
  simp only [Option.bind_map, Function.comp_def, readMembers?_dollar]
  cases single? flags (.literal ')') <;> rfl

theorem readMembers?_closing (m : Nat) (p : Partial) : readMembers? flags m p closing = none := by
  cases m with
  | zero => rfl
  | succ m => rw [readMembers?_succ, skip_closing, membersAfter?_closing]

theorem inner?_agrees {rest : List Char}
    (ih : ∀ {input full : List Char} {m : Nat}, Closed input full → input.length < n →
      full.length < m → ∀ p : Partial, Agrees (Alike input.length) never
        (readMembers? flags n p input) (readMembers? flags m p full))
    (hn : rest.length < n) (hm : rest.length + 2 < m) :
    Agrees (Alike rest.length) never (inner? flags n rest) (inner? flags m (rest ++ closing)) := by
  have hclass := asciiClass?_agrees (.kept rest)
  obtain ⟨hnegated, hpartial, hlen, hclosed⟩ := opening_alike flags (.kept rest)
  simp only [inner?]
  generalize asciiClass? rest = found at hclass ⊢
  generalize asciiClass? (rest ++ closing) = found' at hclass ⊢
  cases hclass with
  | @read r r' hsame =>
    obtain ⟨negated, points, left⟩ := r
    obtain ⟨_, _, left'⟩ := r'
    obtain ⟨hvalue, hleft, hclosed'⟩ := hsame
    cases hvalue
    exact Agrees.map_value fun set => ⟨rfl, hleft, hclosed'⟩
  | stray h => exact h.elim
  | failed =>
    have hlen' := hclosed.length_le
    simp only [hnegated, hpartial]
    refine (ih hclosed (by omega) (by omega) _).bind_of_never ?_
    rintro ⟨bracket, left⟩ ⟨_, left'⟩ ⟨rfl, hleft, hclosed'⟩
    exact Agrees.map_value fun set => ⟨rfl, Nat.le_trans hleft hlen, hclosed'⟩

theorem readMembers?_agrees (flags : Flags) (h : Closed input full) (hn : input.length < n)
    (hm : full.length < m) (p : Partial) :
    Agrees (Alike input.length) never (readMembers? flags n p input)
      (readMembers? flags m p full) := by
  induction n generalizing m p input full with
  | zero => omega
  | succ n ih =>
    obtain ⟨m, rfl⟩ : ∃ k, m = k + 1 := ⟨m - 1, by omega⟩
    rw [readMembers?_succ, readMembers?_succ]
    refine h.skip_cases ?lost ?ended ?cons
    case lost => exact .failed
    case ended =>
      rw [membersAfter?_closing]
      exact .failed
    case cons =>
      intro c rest hlen hlen'
      -- what has been read before, as the next members see it
      have hmore (p : Partial) {left left' : List Char} (hle : left.length ≤ rest.length)
          (hclosed : Closed left left') : Agrees (Alike input.length) never
            (readMembers? flags n p left) (readMembers? flags m p left') := by
        have hle' := hclosed.length_le
        refine (ih hclosed (by omega) (by omega) p).mono fun r r' halike => halike.mono ?_
        omega
      have hoperation := operation?_agrees c rest
      simp only [membersAfter?]
      generalize operation? (c :: rest) = operation at hoperation ⊢
      generalize operation? (c :: (rest ++ closing)) = operation' at hoperation ⊢
      by_cases hclose : c = ']'
      · simp only [if_pos hclose]
        exact .read ⟨rfl, Nat.le_of_lt hlen, .kept rest⟩
      simp only [if_neg hclose]
      cases hoperation with
      | stray h => exact h.elim
      | @read r r' hsame =>
        obtain ⟨operation, left⟩ := r
        obtain ⟨_, left'⟩ := r'
        obtain ⟨rfl, hleft, hclosed⟩ := hsame
        exact hmore _ hleft hclosed
      | failed =>
        split_ifs
        · refine (inner?_agrees ih (by omega) (by omega)).bind_of_never ?_
          rintro ⟨member, left⟩ ⟨_, left'⟩ ⟨rfl, hleft, hclosed⟩
          exact hmore _ hleft hclosed
        · refine (range?_agrees c rest).bind ?_ ?_
          · rintro ⟨set, left⟩ ⟨_, left'⟩ ⟨rfl, hleft, hclosed⟩
            exact hmore _ hleft hclosed
          · rintro ⟨set, left⟩ (rfl | rfl)
            · rw [readMembers?_closing]
              exact .failed
            · rw [readMembers?_dollar]
              exact .failed

theorem read?_agrees (h : Closed input full) :
    Agrees (Alike input.length) never (read? flags input) (read? flags full) := by
  simp only [read?]
  obtain ⟨hnegated, hpartial, hlen, hclosed⟩ := opening_alike flags h
  simp only [hnegated, hpartial]
  have hmembers := readMembers?_agrees flags hclosed (Nat.lt_succ_self _)
    (Nat.lt_succ_self _) (opening flags input).2.1
  refine hmembers.bind_of_never ?_
  rintro ⟨bracket, left⟩ ⟨_, left'⟩ ⟨rfl, hleft, hclosed'⟩
  exact Agrees.bind_value fun set => .read ⟨rfl, Nat.le_trans hleft hlen, hclosed'⟩

end FederatedAccess.Pattern.Bracket
