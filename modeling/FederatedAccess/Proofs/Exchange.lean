import FederatedAccess.Handler.Exchange
import FederatedAccess.Proofs.Results

/-!
# Running operations

Three views on a run. A run that ends with a result went through all its steps (`bind_ok_iff`).
Whatever it ends with, the calls made before are still there, in front of its own (`Continues`). And
where the surroundings are steady, that is the AAMs answer by their arguments alone and the clocks
stand still, an exchange has the same result from every past (`Repeatable`).
-/

namespace FederatedAccess

namespace Operation

variable {σ α β : Type} {around : Surroundings} {s : σ}

/-- After a step with a result the next one is run. -/
theorem run_bind_ok {x : Operation σ α} {f : α → Operation σ β} {a : α} {s' : σ}
    (h : x.run around s = (.ok a, s')) : (x >>= f).run around s = (f a).run around s' := by
  rw [run_bind, h]

/-- A step without a result is the last one. -/
theorem run_bind_error {x : Operation σ α} {f : α → Operation σ β} {e : HandlerError} {s' : σ}
    (h : x.run around s = (.error e, s')) : (x >>= f).run around s = (.error e, s') := by
  rw [run_bind, h]

/-- A sequence of steps has a result exactly when every step has one. -/
theorem bind_ok_iff {x : Operation σ α} {f : α → Operation σ β} {b : β} :
    ((x >>= f).run around s).1 = .ok b ↔
      ∃ a, (x.run around s).1 = .ok a ∧ ((f a).run around (x.run around s).2).1 = .ok b := by
  rw [run_bind]
  rcases x.run around s with ⟨_ | a, s'⟩
  · simp
  · simp

/-- With a default there is always a result. -/
theorem withDefault_result (a : α) (x : Operation σ α) :
    ((withDefault a x).run around s).1 =
      .ok (match (x.run around s).1 with
        | .ok b => b
        | .error _ => a) := by
  rw [run_withDefault]
  rcases x.run around s with ⟨_ | b, s'⟩ <;> rfl

end Operation

/-! ## Calls after other calls -/

namespace Exchange

variable {α β : Type} {around : Surroundings}

/-- A call has the answer of the AAM for its result. -/
theorem run_ask_ok_iff {call : Call} {past past' : History} {answer : call.Answer} :
    Operation.run (ask call) around past = (.ok answer, past') ↔
      around.answer past.calls call = .ok answer ∧ past' = past.called call := by
  rw [run_ask, Prod.mk.injEq, mapError_ok_iff, eq_comm (a := past')]

/-- Calls are only added to those that were made already. -/
def Continues (around : Surroundings) (x : Exchange α) : Prop :=
  ∀ past, past.calls <+: (x.run around past).2.calls

theorem Continues.ofExcept (result : Except HandlerError α) :
    Continues around (.ofExcept result) :=
  fun past => past.calls.prefix_refl

theorem Continues.pure (a : α) : Continues around (Pure.pure a) :=
  .ofExcept (.ok a)

theorem Continues.ask (call : Call) : Continues around (Exchange.ask call) :=
  fun past => past.calls.prefix_append [call]

theorem Continues.clock : Continues around Exchange.clock :=
  fun past => past.calls.prefix_refl

theorem Continues.freshKey : Continues around Exchange.freshKey :=
  fun past => past.calls.prefix_refl

theorem Continues.freshTokenId : Continues around Exchange.freshTokenId :=
  fun past => past.calls.prefix_refl

theorem Continues.bind {x : Exchange α} {f : α → Exchange β} (hx : Continues around x)
    (hf : ∀ a, Continues around (f a)) : Continues around (x >>= f) := by
  intro past
  have hfirst := hx past
  rcases hrun : x.run around past with ⟨e | a, past'⟩
  · rw [hrun] at hfirst
    rw [Operation.run_bind_error hrun]
    exact hfirst
  · rw [hrun] at hfirst
    rw [Operation.run_bind_ok hrun]
    exact hfirst.trans (hf a past')

end Exchange

/-! ## Steady surroundings -/

/-- The AAMs answer by the arguments of a call alone, and the clocks stand still. -/
structure Surroundings.Steady (around : Surroundings) : Prop where
  /-- What was asked before makes no difference. -/
  answer_eq : ∀ calls calls' call, around.answer calls call = around.answer calls' call
  /-- The clocks always show the same. -/
  clock_eq : ∀ past past', around.clock past = around.clock past'

namespace Exchange

variable {α β : Type} {around : Surroundings}

/-- The result does not depend on what has happened before. -/
def Repeatable (around : Surroundings) (x : Exchange α) : Prop :=
  ∀ past past', (x.run around past).1 = (x.run around past').1

theorem Repeatable.pure (a : α) : Repeatable around (Pure.pure a) :=
  fun _ _ => rfl

theorem Repeatable.ofExcept (result : Except HandlerError α) :
    Repeatable around (.ofExcept result) :=
  fun _ _ => rfl

theorem Repeatable.ask (steady : around.Steady) (call : Call) :
    Repeatable around (Exchange.ask call) := by
  intro past past'
  rw [run_ask, run_ask, steady.answer_eq past.calls past'.calls]

theorem Repeatable.clock (steady : around.Steady) : Repeatable around Exchange.clock := by
  intro past past'
  rw [run_clock, run_clock, steady.clock_eq past past']

theorem Repeatable.bind {x : Exchange α} {f : α → Exchange β} (hx : Repeatable around x)
    (hf : ∀ a, Repeatable around (f a)) : Repeatable around (x >>= f) := by
  intro past past'
  have h := hx past past'
  rw [Operation.run_bind, Operation.run_bind]
  rcases hr : x.run around past with ⟨e | a, s⟩
  · rcases hr' : x.run around past' with ⟨e' | a', s'⟩
    · rw [hr, hr'] at h
      exact congrArg Except.error (Except.error.inj h)
    · rw [hr, hr'] at h
      cases h
  · rcases hr' : x.run around past' with ⟨e' | a', s'⟩
    · rw [hr, hr'] at h
      cases h
    · rw [hr, hr'] at h
      obtain rfl : a = a' := Except.ok.inj h
      exact hf a s s'

theorem Repeatable.withDefault {x : Exchange α} (a : α) (hx : Repeatable around x) :
    Repeatable around (.withDefault a x) := by
  intro past past'
  rw [Operation.withDefault_result, Operation.withDefault_result, hx past past']

end Exchange

end FederatedAccess
