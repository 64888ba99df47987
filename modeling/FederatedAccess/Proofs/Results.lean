import Mathlib.Data.List.Forall2

/-!
# Results of steps

Operations that may fail are sequences of steps. When there is a result, every step had one; these
equivalences take such a sequence apart.
-/

namespace FederatedAccess

variable {ε ε' α β : Type}

/-- Nothing is claimed of the result where there is none. -/
theorem forall_ok_of_error {p : α → Prop} (e : ε) :
    ∀ a, (Except.error e : Except ε α) = .ok a → p a := by
  intro a h
  cases h

/-- Changing the error leaves a result alone. -/
theorem mapError_ok (f : ε → ε') (a : α) : (Except.ok a : Except ε α).mapError f = .ok a := rfl

/-- Changing the error does not make a result. -/
theorem mapError_ok_iff {f : ε → ε'} {result : Except ε α} {a : α} :
    result.mapError f = .ok a ↔ result = .ok a := by
  cases result with
  | error e => exact iff_of_false nofun nofun
  | ok b => rw [mapError_ok, Except.ok.injEq, Except.ok.injEq]

/-- A sequence of two steps has a result exactly when both have one. -/
theorem except_bind_ok_iff {x : Except ε α} {f : α → Except ε β} {b : β} :
    x >>= f = .ok b ↔ ∃ a, x = .ok a ∧ f a = .ok b := by
  cases x with
  | error e => simp [bind, Except.bind]
  | ok a => simp [bind, Except.bind]

theorem except_map_ok_iff {f : α → β} {x : Except ε α} {b : β} :
    x.map f = .ok b ↔ ∃ a, x = .ok a ∧ f a = b := by
  cases x <;> simp [Except.map]

theorem except_pure_ok_iff {a b : α} : (pure a : Except ε α) = .ok b ↔ a = b := by
  simp [pure, Except.pure]

/-- Steps that are taken for all members of a list have results exactly when each has one. -/
theorem mapM_eq_some_iff {f : α → Option β} {xs : List α} {ys : List β} :
    xs.mapM f = some ys ↔ List.Forall₂ (fun a b => f a = some b) xs ys := by
  induction xs generalizing ys with
  | nil => simp [eq_comm]
  | cons a rest ih =>
    rw [List.mapM_cons, List.forall₂_cons_left_iff, Option.bind_eq_bind, Option.bind_eq_some_iff]
    constructor
    · rintro ⟨b, hb, hrest⟩
      obtain ⟨bs, hbs, hys⟩ := Option.bind_eq_some_iff.1 hrest
      cases hys
      exact ⟨b, bs, hb, ih.1 hbs, rfl⟩
    · rintro ⟨b, bs, hb, hbs, rfl⟩
      exact ⟨b, hb, Option.bind_eq_some_iff.2 ⟨bs, ih.2 hbs, rfl⟩⟩

/-- Each result comes from a member of the list. -/
theorem exists_mem_of_mapM {f : α → Option β} {xs : List α} {ys : List β} (h : xs.mapM f = some ys)
    {b : β} (hb : b ∈ ys) : ∃ a ∈ xs, f a = some b := by
  induction mapM_eq_some_iff.1 h with
  | nil => cases hb
  | cons hfirst hrest ih =>
    rcases List.mem_cons.1 hb with rfl | hb
    · exact ⟨_, List.mem_cons_self, hfirst⟩
    · obtain ⟨a, ha, hf⟩ := ih (mapM_eq_some_iff.2 hrest) hb
      exact ⟨a, List.mem_cons_of_mem _ ha, hf⟩

end FederatedAccess
