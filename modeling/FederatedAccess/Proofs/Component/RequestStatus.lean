import FederatedAccess.Component
import FederatedAccess.Proofs.Exchange
import FederatedAccess.Proofs.Possession
import FederatedAccess.Proofs.Token.Validity

/-!
# The status of a request, step by step

When a request is valid, nothing in the check ended early: its proofs hold, the AAMs are known, and
each of its tokens is valid in turn. One equivalence per operation says so; what the mode of
validation makes of a single token is left open here.

In steady surroundings the check of a request has the same result whenever it is run
(`requestStatus_repeatable`).
-/

namespace FederatedAccess.Component

open Operation

variable {component : Component} {around : Surroundings} {past : History} {aams : Dictionary Aam}
  {request : SecurityRequest} {credentials : SecurityCredentials} {rest : List SecurityCredentials}

/-- After a valid token the others are looked at. -/
theorem firstStatus_cons_of_valid {past' : History}
    (h : (component.tokenStatus aams credentials).run around past = (.ok .valid, past')) :
    (component.firstStatus aams (credentials :: rest)).run around past =
      (component.firstStatus aams rest).run around past' := by
  rw [firstStatus, run_bind, h]
  rfl

/-- A token that is not valid ends the search, with its own status or error. -/
theorem firstStatus_cons_of_not_valid
    (h : ((component.tokenStatus aams credentials).run around past).1 ≠ .ok .valid) :
    (component.firstStatus aams (credentials :: rest)).run around past =
      (component.tokenStatus aams credentials).run around past := by
  rw [firstStatus, run_bind]
  rcases hrun : (component.tokenStatus aams credentials).run around past with ⟨e | status, past'⟩
  · rfl
  · have hstatus : ¬ status.isValid = true := by
      intro hvalid
      apply h
      rw [hrun, ValidationStatus.isValid_iff.1 hvalid]
    simp only [hstatus]
    rfl

/-- The tokens of a list are valid when the first one is, and the others are after it. -/
theorem firstStatus_cons_valid_iff :
    ((component.firstStatus aams (credentials :: rest)).run around past).1 = .ok .valid ↔
      ((component.tokenStatus aams credentials).run around past).1 = .ok .valid ∧
      ((component.firstStatus aams rest).run around
        ((component.tokenStatus aams credentials).run around past).2).1 = .ok .valid := by
  rcases hrun : (component.tokenStatus aams credentials).run around past with ⟨result, past'⟩
  by_cases hvalid : result = .ok .valid
  · subst hvalid
    rw [firstStatus_cons_of_valid hrun]
    exact ⟨fun h => ⟨rfl, h⟩, fun h => h.2⟩
  · have hstops : ((component.tokenStatus aams credentials).run around past).1 ≠ .ok .valid := by
      rw [hrun]
      exact hvalid
    rw [firstStatus_cons_of_not_valid hstops, hrun]
    exact ⟨fun h => absurd h hvalid, fun h => h.1⟩

/-- **A valid request.** Its proofs hold at the time when it is looked at, the AAMs are known then,
and every token is valid. -/
theorem requestStatus_valid_iff :
    ((component.requestStatus request).run around past).1 = .ok .valid ↔
      component.configuration.authenticator.verifyRequest request (around.clock past).millis =
        .ok true ∧
      ∃ aams, (component.knownAams.run around past.read).1 = .ok aams ∧
        ((component.firstStatus aams request.credentials).run around
          (component.knownAams.run around past.read).2).1 = .ok .valid := by
  rw [requestStatus, bind_ok_iff]
  constructor
  · rintro ⟨now, hnow, h⟩
    obtain rfl : around.clock past = now := Except.ok.inj hnow
    obtain ⟨proved, hproved, h⟩ := bind_ok_iff.1 h
    cases proved with
    | true => exact ⟨mapError_ok_iff.1 hproved, bind_ok_iff.1 h⟩
    | false => cases h
  · rintro ⟨hproved, h⟩
    refine ⟨around.clock past, rfl, bind_ok_iff.2 ⟨true, mapError_ok_iff.2 hproved, ?_⟩⟩
    exact bind_ok_iff.2 h

/-! ## Steady surroundings -/

variable (steady : around.Steady)

include steady

theorem knownAams_repeatable : Exchange.Repeatable around component.knownAams := by
  unfold knownAams
  split
  · exact .pure _
  · exact .ask steady _

theorem tokenStatus_repeatable (aams : Dictionary Aam) (credentials : SecurityCredentials) :
    Exchange.Repeatable around (component.tokenStatus aams credentials) := by
  refine .bind (.ofExcept _) fun token => ?_
  cases component.configuration.validationMode with
  | remote => exact .ask steady _
  | offline => exact .bind (.clock steady) fun now => .ofExcept _

theorem firstStatus_repeatable (aams : Dictionary Aam) (credentials : List SecurityCredentials) :
    Exchange.Repeatable around (component.firstStatus aams credentials) := by
  induction credentials with
  | nil => exact .pure _
  | cons c rest ih =>
    refine .bind (tokenStatus_repeatable steady aams c) fun status => ?_
    cases status.isValid with
    | true => exact ih
    | false => exact .pure _

/-- **The check of a request can be repeated.** -/
theorem requestStatus_repeatable (request : SecurityRequest) :
    Exchange.Repeatable around (component.requestStatus request) := by
  refine .bind (.clock steady) fun now => .bind (.ofExcept _) fun proved => ?_
  cases proved with
  | true =>
    refine .bind (knownAams_repeatable steady) fun aams => ?_
    exact firstStatus_repeatable steady aams request.credentials
  | false => exact .pure _

end FederatedAccess.Component
