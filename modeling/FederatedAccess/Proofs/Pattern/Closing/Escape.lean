import FederatedAccess.Proofs.Pattern.Closing

/-!
# Escapes with the closing

An escape that its input cuts short may be completed by the closing: after a single backslash the
parenthesis stands for itself. Only a boundary is cut short in another way, since a brace after it
needs something to follow before it can be told from a repetition.
-/

namespace FederatedAccess.Pattern

open Text

variable {flags : Flags} {spaced : Bool} {input full : List Char} {n m : Nat}

/-! ## Braces and digits -/

theorem untilBrace_dollar (spaced : Bool) (m : Nat) : untilBrace spaced m ['$'] = none := by
  obtain _ | _ | m := m <;> cases spaced <;> rfl

theorem untilBrace_agrees (h : Closed input full) (hn : input.length < n) (hm : full.length < m) :
    Agrees (Alike input.length) never (untilBrace spaced n input) (untilBrace spaced m full) := by
  induction n generalizing m input full with
  | zero => omega
  | succ n ih =>
    obtain ⟨m, rfl⟩ : ∃ k, m = k + 1 := ⟨m - 1, by omega⟩
    simp only [untilBrace]
    refine h.skip_cases ?lost ?ended ?cons
    case lost => exact .failed
    case ended =>
      simp only [closing, untilBrace_dollar]
      exact .failed
    case cons =>
      intro c rest hlen hlen'
      by_cases hc : c = '\x7d'
      · simp only [hc, if_true]
        exact .read ⟨rfl, Nat.le_of_lt hlen, .kept rest⟩
      · have hlen'' := length_append_closing rest
        simp only [hc, if_false]
        refine (ih (.kept rest) (by omega) (by omega)).map_of_never fun r r' halike => ?_
        exact halike.map (c :: ·) (Nat.le_of_lt hlen)

theorem untilBrace_kept (rest : List Char) :
    Agrees (Alike rest.length) never (untilBrace spaced (rest.length + 1) rest)
      (untilBrace spaced ((rest ++ closing).length + 1) (rest ++ closing)) :=
  untilBrace_agrees (.kept rest) (Nat.lt_succ_self _) (Nat.lt_succ_self _)

/-- The set of a property that has been read. -/
def finishProperty? (flags : Flags) (negated : Bool) (found : CharSet × List Char) :
    Option (CharSet × List Char) :=
  if flags.unicode then (finishSet? flags negated found.1).bind fun s => some (s, found.2) else none

theorem finishProperty?_agrees {most : Nat} {negated : Bool} {x y : Option (CharSet × List Char)}
    (h : Agrees (Alike most) DollarLeft x y) :
    Agrees (Alike most) DollarLeft (x.bind (finishProperty? flags negated))
      (y.bind (finishProperty? flags negated)) := by
  refine h.bind ?_ ?_
  · rintro ⟨s, rest⟩ ⟨_, rest'⟩ ⟨rfl, hlen, hrest⟩
    simp only [finishProperty?]
    split_ifs
    · exact Agrees.bind_value fun set => .read ⟨rfl, hlen, hrest⟩
    · exact .failed
  · rintro ⟨s, _⟩ rfl
    simp only [finishProperty?]
    split_ifs
    · exact Agrees.none_bind fun set => .dollar set
    · exact .failed

theorem propertyAfter?_agrees (h : Closed input full) (negated : Bool) :
    Agrees (Alike input.length) DollarLeft (propertyAfter? flags negated input)
      (propertyAfter? flags negated full) := by
  simp only [propertyAfter?]
  refine h.skip_cases ?lost ?ended ?cons
  case lost => exact .failed
  case ended =>
    refine Agrees.none_bind fun set => ?_
    have hset : Agrees (Alike input.length) DollarLeft none
        (some (set, skip flags.spaced ['$'])) := by
      rw [skip_dollar]
      exact .dollar set
    exact finishProperty?_agrees hset
  case cons =>
    intro c rest hlen hlen'
    by_cases hbrace : c = '\x7b'
    · subst hbrace
      refine (untilBrace_kept rest).bind_of_never ?_
      rintro ⟨name, left⟩ ⟨name', left'⟩ ⟨rfl, hleft, hclosed⟩
      refine Agrees.bind_value fun set => finishProperty?_agrees (.read ⟨rfl, ?_, hclosed⟩)
      exact Nat.le_trans hleft (Nat.le_of_lt hlen)
    · by_cases hslash : c = '\\'
      · subst hslash
        exact .failed
      · have hskip := (Closed.kept rest).skip flags.spaced
        simp only
        refine Agrees.bind_value fun set => finishProperty?_agrees (.read ⟨rfl, ?_, hskip⟩)
        exact Nat.le_trans (length_skip_le _ _) (Nat.le_of_lt hlen)

theorem fixedDigits?_agrees (h : Closed input full) (v : Nat) :
    Agrees (Alike input.length) never (fixedDigits? spaced n v input)
      (fixedDigits? spaced n v full) := by
  induction n generalizing v input full with
  | zero => exact .read ⟨rfl, Nat.le_refl _, h⟩
  | succ n ih =>
    cases h with
    | lost => exact .failed
    | ended => exact .failed
    | cons c rest =>
      refine Agrees.bind_value fun d => ?_
      exact (ih ((Closed.kept rest).skip spaced) (v * 16 + d)).mono fun r r' halike =>
        halike.mono (Nat.le_succ_of_le (length_skip_le spaced rest))

theorem numbered?_agrees (h : Closed input full) (hn : 0 < n) :
    Agrees (Alike input.length) never (numbered? flags n input) (numbered? flags n full) := by
  simp only [numbered?]
  refine h.skip_cases ?lost ?ended ?cons
  case lost => exact .failed
  case ended =>
    obtain ⟨n, rfl⟩ : ∃ k, n = k + 1 := ⟨n - 1, by omega⟩
    exact .failed
  case cons =>
    intro c rest hlen hlen'
    by_cases hbrace : c = '\x7b'
    · subst hbrace
      refine (untilBrace_kept rest).bind_of_never ?_
      rintro ⟨text, left⟩ ⟨text', left'⟩ ⟨rfl, hleft, hclosed⟩
      refine Agrees.bind_value fun v => Agrees.bind_value fun number => .read ⟨rfl, ?_, ?_⟩
      · exact Nat.le_trans (length_skip_le _ _) (Nat.le_trans hleft (Nat.le_of_lt hlen))
      · exact hclosed.skip flags.spaced
    · simp only [List.cons.injEq, hbrace, false_and, imp_false, not_false_eq_true, implies_true]
      refine (fixedDigits?_agrees (.kept (c :: rest)) 0).bind_of_never ?_
      rintro ⟨v, left⟩ ⟨v', left'⟩ ⟨rfl, hleft, hclosed⟩
      split_ifs
      · exact .failed
      · exact Agrees.bind_value fun number => .read ⟨rfl, Nat.le_trans hleft hlen, hclosed⟩

/-! ## Edges of words -/

theorem edgeName_eq_spanOf (n : Nat) (input : List Char) :
    edgeName spaced n input = spanOf isEdgeChar spaced n input := by
  induction n generalizing input with
  | zero => rfl
  | succ n ih =>
    cases input with
    | nil => rfl
    | cons c rest => simp only [edgeName, spanOf, ih]

theorem edgeName_alike (h : Closed input full) (hn : input.length ≤ n) (hm : full.length ≤ m) :
    Alike input.length (edgeName spaced n input) (edgeName spaced m full) := by
  rw [edgeName_eq_spanOf, edgeName_eq_spanOf]
  exact spanOf_alike spaced (by decide) h hn hm

/-- A boundary, and a brace of which nothing but the closing follows. -/
def BraceLeft (spaced : Bool) {α : Type} (r : α × List Char) : Prop :=
  ∃ rest, r.2 = '\x7b' :: rest ∧ skip spaced rest = closing

/-- The edge whose name has been read, if a brace closes it. -/
def namedEdge? (found : List Char × List Char) : Option (WordEdge × List Char) :=
  match found.2 with
  | '\x7d' :: rest => (edge? found.1).map (·, rest)
  | _ => none

theorem namedEdge?_agrees {most : Nat} {stray : WordEdge × List Char → Prop}
    {found found' : List Char × List Char} (h : Alike most found found') :
    Agrees (Alike most) stray (namedEdge? found) (namedEdge? found') := by
  obtain ⟨name, rest⟩ := found
  obtain ⟨_, rest'⟩ := found'
  obtain ⟨rfl, hlen, hclosed⟩ := h
  simp only [namedEdge?]
  cases hclosed with
  | lost => exact .failed
  | ended => exact .failed
  | cons c rest =>
    by_cases hbrace : c = '\x7d'
    · subst hbrace
      exact Agrees.map_value fun edge => ⟨rfl, Nat.le_of_succ_le hlen, .kept rest⟩
    · simp only [List.cons.injEq, hbrace, false_and, imp_false, not_false_eq_true, implies_true]
      exact .failed

theorem boundary?_agrees (h : Closed input full) :
    Agrees (Alike input.length) (BraceLeft spaced) (boundary? spaced input)
      (boundary? spaced full) := by
  cases h with
  | lost => exact .read ⟨rfl, Nat.le_refl _, .lost⟩
  | ended => exact .read ⟨rfl, Nat.le_refl _, .kept []⟩
  | cons c rest =>
    have hsame : Alike (c :: rest).length (WordEdge.boundary, c :: rest)
        (WordEdge.boundary, c :: rest ++ closing) :=
      ⟨rfl, Nat.le_refl _, .kept (c :: rest)⟩
    by_cases hbrace : c = '\x7b'
    · subst hbrace
      have hskip := (Closed.kept rest).skip spaced
      have hlen := length_skip_le spaced rest
      simp only [List.cons_append, boundary?]
      generalize skip spaced rest = found at hskip hlen ⊢
      generalize hfound' : skip spaced (rest ++ closing) = found' at hskip ⊢
      cases hskip with
      | lost => exact .failed
      | ended => exact .stray ⟨rest ++ closing, rfl, hfound'⟩
      | cons c left =>
        rw [List.length_cons] at hlen
        simp only [List.cons_append]
        split_ifs with hedge
        · have hname : Alike _ (edgeName spaced (left.length + 2) (c :: left))
              (edgeName spaced ((left ++ closing).length + 2) (c :: (left ++ closing))) :=
            edgeName_alike (.kept (c :: left)) (Nat.le_succ _) (Nat.le_succ _)
          exact namedEdge?_agrees (hname.mono (Nat.le_succ_of_le hlen))
        · exact .read hsame
    · simp only [List.cons_append, boundary?, List.cons.injEq, hbrace, false_and, imp_false,
        not_false_eq_true, implies_true]
      exact .read hsame

theorem assertion?_agrees (h : Closed input full) (c : Char) :
    Agrees (Alike input.length) (BraceLeft flags.spaced) (assertion? flags c input)
      (assertion? flags c full) := by
  simp only [assertion?]
  split
  · exact .read ⟨rfl, Nat.le_refl _, h⟩
  · exact .read ⟨rfl, Nat.le_refl _, h⟩
  · refine (boundary?_agrees h).map (fun r r' hedge => ?_) ?_
    · exact hedge.map (Assertion.word · !flags.unicode) (Nat.le_refl _)
    rintro r' ⟨rest, hrest, hskip⟩
    exact ⟨rest, hrest, hskip⟩
  · exact .read ⟨rfl, Nat.le_refl _, h⟩
  · exact .read ⟨rfl, Nat.le_refl _, h⟩
  · exact .read ⟨rfl, Nat.le_refl _, h⟩
  · exact .failed

/-! ## Escapes -/

/-- What an escape may read where the plain input ends: something with the parenthesis, or a
boundary with a brace after it. -/
def EscapeStray (spaced : Bool) (r : Atom × List Char) : Prop :=
  DollarLeft r ∨ (∃ assertion, r.1 = .look assertion) ∧ BraceLeft spaced r

theorem escape?_agrees (h : Closed input full) :
    Agrees (Alike input.length) (EscapeStray flags.spaced) (escape? flags input)
      (escape? flags full) := by
  cases h with
  | lost => exact .failed
  | ended => exact .stray (.inl rfl)
  | cons c rest =>
    have hle : rest.length ≤ (c :: rest).length := Nat.le_succ _
    have hrest : Closed rest (rest ++ closing) := .kept rest
    have hnumbered (n : Nat) (hn : 0 < n) :
        Agrees (Alike (c :: rest).length) (EscapeStray flags.spaced)
          ((numbered? flags n rest).map fun found => (.literal found.1, found.2))
          ((numbered? flags n (rest ++ closing)).map fun found => (.literal found.1, found.2)) :=
      (numbered?_agrees hrest hn).map_of_never fun r r' h => h.map Atom.literal hle
    simp only [List.cons_append, escape?]
    split_ifs
    · exact hnumbered 2 (by decide)
    · exact hnumbered 4 (by decide)
    · exact hnumbered 8 (by decide)
    · exact (propertyAfter?_agrees hrest _).map (fun r r' h => h.map _ hle) fun r' => .inl
    · exact Agrees.map_value fun set => ⟨rfl, hle, hrest⟩
    · exact .read ⟨rfl, hle, hrest⟩
    · cases control? c with
      | some control => exact .read ⟨rfl, hle, hrest⟩
      | none =>
        refine (assertion?_agrees hrest c).map (fun r r' h => h.map _ hle) ?_
        exact fun r' hbrace => .inr ⟨⟨_, rfl⟩, hbrace⟩

end FederatedAccess.Pattern
