import Mathlib.Tactic.SplitIfs
import FederatedAccess.Pattern

/-!
# Reading an expression with its closing

A pattern is read with `)$` after it (`Pattern.anchored`). The theorem about whole texts compares
this with what the pattern is by itself, so every reader is run on an input and on the same input
with the closing after it (`Closed`). A comment that is still open swallows the closing; it is gone
then, and both inputs are the same from there on.

As long as the plain input suffices, both runs read the same. Where it ends too early, the run with
the closing usually fails as well; what it can read into the closing is `stray` in `Agrees`.
-/

namespace FederatedAccess.Pattern

open Text

/-- What stands after a pattern. -/
def closing : List Char := [')', '$']

theorem length_append_closing (input : List Char) : (input ++ closing).length = input.length + 2 :=
  List.length_append

/-! ## Inputs -/

/-- The second input is the first one with the closing after it, or nothing is left of either. -/
inductive Closed : List Char → List Char → Prop
  | lost : Closed [] []
  | kept (input : List Char) : Closed input (input ++ closing)

namespace Closed

variable {input full : List Char} {spaced : Bool}

/-- Both inputs have ended, only the plain one has, or they go on with the same character. -/
@[elab_as_elim, cases_eliminator]
theorem elim {motive : ∀ {input full : List Char}, Closed input full → Prop} (h : Closed input full)
    (lost : motive lost) (ended : motive (kept []))
    (cons : ∀ c rest, motive (kept (c :: rest))) : motive h := by
  obtain _ | _ := h
  · exact lost
  · cases input with
    | nil => exact ended
    | cons c rest => exact cons c rest

theorem of_nil (h : Closed [] full) : full = [] ∨ full = closing := by
  obtain _ | _ := h
  · exact .inl rfl
  · exact .inr rfl

theorem length_le (h : Closed input full) : full.length ≤ input.length + 2 := by
  cases h with
  | lost => exact Nat.zero_le _
  | ended => exact Nat.le_refl _
  | cons c rest => exact Nat.le_of_eq (length_append_closing (c :: rest))

theorem dropComments_kept (input : List Char) (inComment : Bool) :
    Closed (dropComments inComment input) (dropComments inComment (input ++ closing)) := by
  induction input generalizing inComment with
  | nil =>
    cases inComment with
    | false => exact kept []
    | true => exact lost
  | cons c input ih =>
    simp only [List.cons_append, dropComments]
    split_ifs
    · exact ih _
    · exact ih _
    · exact ih _
    · exact kept (c :: input)

theorem skip (h : Closed input full) (spaced : Bool) :
    Closed (skip spaced input) (skip spaced full) := by
  cases spaced with
  | false => exact h
  | true =>
    cases h with
    | lost => exact lost
    | ended => exact dropComments_kept [] false
    | cons c rest => exact dropComments_kept (c :: rest) false

theorem dropWhile {p : Char → Bool} (h : Closed input full) (hp : p ')' = false) :
    Closed (input.dropWhile p) (full.dropWhile p) := by
  obtain _ | _ := h
  · exact lost
  · rw [List.dropWhile_append]
    split_ifs with hempty
    · rw [List.isEmpty_iff.mp hempty, closing, List.dropWhile_cons_of_neg (by simp [hp])]
      exact kept []
    · exact kept _

/-- Something is looked for that is not in the closing: it is found in both inputs or in neither. -/
theorem found_or_lost {p : Char → Bool} (h : Closed input full) (hp : p ')' = true)
    (hp' : p '$' = true) :
    (input.dropWhile p = [] ∧ full.dropWhile p = []) ∨
      ∃ c rest, input.dropWhile p = c :: rest ∧ full.dropWhile p = c :: (rest ++ closing) ∧
        full.takeWhile p = input.takeWhile p := by
  obtain _ | _ := h
  · exact .inl ⟨rfl, rfl⟩
  · induction input with
    | nil => exact .inl ⟨rfl, by simp [closing, hp, hp']⟩
    | cons c input ih =>
      rw [List.cons_append]
      by_cases hc : p c = true
      · rw [List.dropWhile_cons_of_pos hc, List.dropWhile_cons_of_pos hc,
          List.takeWhile_cons_of_pos hc, List.takeWhile_cons_of_pos hc]
        refine ih.imp_right fun ⟨d, rest, hfound, hfound', htaken⟩ => ?_
        exact ⟨d, rest, hfound, hfound', congrArg (c :: ·) htaken⟩
      · rw [List.dropWhile_cons_of_neg hc, List.dropWhile_cons_of_neg hc,
          List.takeWhile_cons_of_neg hc, List.takeWhile_cons_of_neg hc]
        exact .inr ⟨c, input, rfl, rfl, rfl⟩

theorem head?_eq_iff {c : Char} (h : Closed input full) (hc : c ≠ ')') :
    full.head? = some c ↔ input.head? = some c := by
  cases h with
  | lost => rfl
  | ended => simpa [closing] using hc.symm
  | cons d rest => rfl

theorem lookAhead?_eq_iff {c : Char} (h : Closed input full) (hc : c ≠ ')') :
    lookAhead? spaced full = some c ↔ lookAhead? spaced input = some c := by
  cases spaced with
  | false => exact h.head?_eq_iff hc
  | true =>
    have hblank : isBlank ')' = false := by decide
    have hfound := h.dropWhile hblank
    simp only [lookAhead?]
    generalize input.dropWhile isBlank = found at hfound ⊢
    generalize full.dropWhile isBlank = found' at hfound ⊢
    cases hfound with
    | lost => rfl
    | ended => simpa [closing] using hc.symm
    | cons d rest =>
      by_cases hd : d = '#'
      · subst hd
        exact ((kept rest).dropWhile hblank).head?_eq_iff hc
      · simp [hd]

end Closed

theorem length_dropComments_le (inComment : Bool) (input : List Char) :
    (dropComments inComment input).length ≤ input.length := by
  induction input generalizing inComment with
  | nil => exact Nat.le_refl _
  | cons c input ih =>
    simp only [dropComments]
    split_ifs
    · exact Nat.le_succ_of_le (ih _)
    · exact Nat.le_succ_of_le (ih _)
    · exact Nat.le_succ_of_le (ih _)
    · exact Nat.le_refl _

theorem length_skip_le (spaced : Bool) (input : List Char) :
    (skip spaced input).length ≤ input.length := by
  cases spaced with
  | false => exact Nat.le_refl _
  | true => exact length_dropComments_le false input

theorem skip_closing (spaced : Bool) : skip spaced closing = closing := by
  cases spaced <;> rfl

theorem skip_dollar (spaced : Bool) : skip spaced ['$'] = ['$'] := by
  cases spaced <;> rfl

/-- The cases of two inputs where the next part starts. -/
@[elab_as_elim]
theorem Closed.skip_cases {input full : List Char} {spaced : Bool}
    {motive : List Char → List Char → Prop} (h : Closed input full) (lost : motive [] [])
    (ended : motive [] closing)
    (cons : ∀ c rest, rest.length < input.length → rest.length + 2 < full.length →
      motive (c :: rest) (c :: (rest ++ closing))) :
    motive (Pattern.skip spaced input) (Pattern.skip spaced full) := by
  have hskip := h.skip spaced
  have hlen := length_skip_le spaced input
  have hlen' := length_skip_le spaced full
  generalize Pattern.skip spaced input = found at hskip hlen ⊢
  generalize Pattern.skip spaced full = found' at hskip hlen' ⊢
  cases hskip with
  | lost => exact lost
  | ended => exact ended
  | cons c rest =>
    rw [length_append_closing] at hlen'
    exact cons c rest hlen hlen'

/-! ## Results -/

/-- The results of two runs, the second with the closing: both read the `same`, both fail, or the
second reads something `stray` where the first finds its input ended. -/
inductive Agrees {ρ : Type} (same : ρ → ρ → Prop) (stray : ρ → Prop) : Option ρ → Option ρ → Prop
  | read {r r' : ρ} : same r r' → Agrees same stray (some r) (some r')
  | failed : Agrees same stray none none
  | stray {r' : ρ} : stray r' → Agrees same stray none (some r')

/-- Nothing is stray. -/
def never {ρ : Type} (_ : ρ) : Prop := False

namespace Agrees

variable {ρ σ : Type} {same : ρ → ρ → Prop} {stray : ρ → Prop} {same' : σ → σ → Prop}
  {stray' : σ → Prop} {x y : Option ρ}

theorem bind {f g : ρ → Option σ} (h : Agrees same stray x y)
    (hread : ∀ r r', same r r' → Agrees same' stray' (f r) (g r'))
    (hstray : ∀ r', stray r' → Agrees same' stray' none (g r')) :
    Agrees same' stray' (x.bind f) (y.bind g) := by
  cases h with
  | read hsame => exact hread _ _ hsame
  | failed => exact .failed
  | stray hs => exact hstray _ hs

theorem bind_of_never {f g : ρ → Option σ} (h : Agrees same never x y)
    (hread : ∀ r r', same r r' → Agrees same' stray' (f r) (g r')) :
    Agrees same' stray' (x.bind f) (y.bind g) :=
  h.bind hread fun _ hnever => hnever.elim

theorem map {f : ρ → σ} (h : Agrees same stray x y)
    (hread : ∀ r r', same r r' → same' (f r) (f r')) (hstray : ∀ r', stray r' → stray' (f r')) :
    Agrees same' stray' (x.map f) (y.map f) := by
  cases h with
  | read hsame => exact .read (hread _ _ hsame)
  | failed => exact .failed
  | stray hs => exact .stray (hstray _ hs)

theorem map_of_never {f : ρ → σ} (h : Agrees same never x y)
    (hread : ∀ r r', same r r' → same' (f r) (f r')) : Agrees same' stray' (x.map f) (y.map f) :=
  h.map hread fun _ hnever => hnever.elim

theorem exists_same {r : ρ} (h : Agrees same stray x y) (hx : x = some r) :
    ∃ r', y = some r' ∧ same r r' := by
  subst hx
  cases h with
  | read hsame => exact ⟨_, rfl, hsame⟩

theorem mono {same' : ρ → ρ → Prop} (h : Agrees same stray x y)
    (hread : ∀ r r', same r r' → same' r r') : Agrees same' stray x y := by
  cases h with
  | read hsame => exact .read (hread _ _ hsame)
  | failed => exact .failed
  | stray hs => exact .stray hs

/-- What is found without regard to the input is the same on both sides. -/
theorem bind_value {z : Option σ} {f g : σ → Option ρ}
    (h : ∀ a, Agrees same stray (f a) (g a)) : Agrees same stray (z.bind f) (z.bind g) := by
  cases z with
  | none => exact .failed
  | some a => exact h a

theorem map_value {z : Option σ} {f g : σ → ρ} (h : ∀ a, same (f a) (g a)) :
    Agrees same stray (z.map f) (z.map g) := by
  cases z with
  | none => exact .failed
  | some a => exact .read (h a)

theorem none_map {z : Option σ} {g : σ → ρ} (h : ∀ a, stray (g a)) :
    Agrees same stray none (z.map g) := by
  cases z with
  | none => exact .failed
  | some a => exact .stray (h a)

theorem none_bind {z : Option σ} {g : σ → Option ρ} (h : ∀ a, Agrees same stray none (g a)) :
    Agrees same stray none (z.bind g) := by
  cases z with
  | none => exact .failed
  | some a => exact h a

end Agrees

/-- The parenthesis of the closing has been read as the last part of something, and the sign for the
end of the text is left. -/
def DollarLeft {α : Type} (r : α × List Char) : Prop := r.2 = ['$']

theorem Agrees.dollar {α : Type} {same : α × List Char → α × List Char → Prop} (a : α) :
    Agrees same DollarLeft none (some (a, ['$'])) :=
  .stray rfl

/-- The same has been read, and of the plain input at most so much is left. -/
structure Alike {α : Type} (most : Nat) (r r' : α × List Char) : Prop where
  value : r'.1 = r.1
  length : r.2.length ≤ most
  rest : Closed r.2 r'.2

namespace Alike

variable {α β : Type} {r r' : α × List Char} {least most : Nat}

theorem mono (h : Alike least r r') (hle : least ≤ most) : Alike most r r' :=
  ⟨h.value, Nat.le_trans h.length hle, h.rest⟩

theorem map (f : α → β) (h : Alike least r r') (hle : least ≤ most) :
    Alike most (f r.1, r.2) (f r'.1, r'.2) :=
  ⟨congrArg f h.value, Nat.le_trans h.length hle, h.rest⟩

end Alike

/-- The same two values have been read. -/
def AlikePair {α β : Type} (most : Nat) (r r' : α × β × List Char) : Prop :=
  Alike most ((r.1, r.2.1), r.2.2) ((r'.1, r'.2.1), r'.2.2)

/-! ## Runs of characters -/

/-- The characters at the start that satisfy a condition, and what follows. What is skipped between
parts of an expression is skipped between them as well. -/
def spanOf (p : Char → Bool) (spaced : Bool) : Nat → List Char → List Char × List Char
  | 0, input => ([], input)
  | _ + 1, [] => ([], [])
  | fuel + 1, c :: rest =>
    if p c then
      let found := spanOf p spaced fuel (skip spaced rest)
      (c :: found.1, found.2)
    else ([], c :: rest)

section

variable {p : Char → Bool} {spaced : Bool} {input full : List Char}

theorem spanOf_ended (h : Closed [] full) (hp : p ')' = false) (n m : Nat) :
    Alike 0 (spanOf p spaced n []) (spanOf p spaced m full) := by
  have hn : spanOf p spaced n [] = ([], []) := by cases n <;> rfl
  have hm : spanOf p spaced m full = ([], full) := by
    obtain _ | _ := h
    · cases m <;> rfl
    · cases m with
      | zero => rfl
      | succ m => simp [spanOf, closing, hp]
  rw [hn, hm]
  exact ⟨rfl, Nat.le_refl _, h⟩

theorem spanOf_alike {n m : Nat} (spaced : Bool) (hp : p ')' = false) (h : Closed input full)
    (hn : input.length ≤ n) (hm : full.length ≤ m) :
    Alike input.length (spanOf p spaced n input) (spanOf p spaced m full) := by
  induction n generalizing m input full with
  | zero =>
    obtain rfl : input = [] := List.eq_nil_of_length_eq_zero (by omega)
    exact spanOf_ended h hp 0 m
  | succ n ih =>
    cases h with
    | lost => exact spanOf_ended .lost hp (n + 1) m
    | ended => exact spanOf_ended (.kept []) hp (n + 1) m
    | cons c rest =>
      rw [length_append_closing, List.length_cons] at hm
      rw [List.length_cons] at hn
      obtain ⟨m, rfl⟩ : ∃ k, m = k + 1 := ⟨m - 1, by omega⟩
      have hlen := length_skip_le spaced rest
      have hlen' := length_skip_le spaced (rest ++ closing)
      rw [length_append_closing] at hlen'
      simp only [List.cons_append, spanOf]
      split_ifs
      · have hmore := ih ((Closed.kept rest).skip spaced) (by omega) (m := m) (by omega)
        exact hmore.map (c :: ·) (Nat.le_succ_of_le hlen)
      · exact ⟨rfl, Nat.le_refl _, .kept (c :: rest)⟩

end

end FederatedAccess.Pattern
