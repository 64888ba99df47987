import FederatedAccess.Proofs.Time
import FederatedAccess.Token.Validator

/-!
# When a token is valid

The exact condition under which a token that was taken apart has the status valid: the accepted
algorithm, a usable key, a signature under this key, and a time before the deadline.
-/

namespace FederatedAccess

theorem ValidationStatus.isValid_iff {status : ValidationStatus} :
    status.isValid = true ↔ status = .valid := by
  simp [isValid]

namespace Validator

variable {validator : Validator} {decoded : DecodedToken} {now : Int64}

/-- Before its deadline a token has not expired; the deadline is the end of the token put off by the
leeway, as far as times go. -/
theorem not_deadline_le_iff {claims : Claims} :
    ¬ validator.deadline claims ≤ now ↔
      now.toInt < min (claims.expiration.toInt + min validator.leeway.seconds.toNat Time.greatest)
        Time.greatest := by
  rw [deadline]
  exact Time.not_add_ofNat_le_iff _ _ _

theorem check_valid_iff {key : Option Ed25519.PublicKey} :
    validator.check decoded key now = .ok .valid ↔
      decoded.header.algorithm = acceptedAlgorithm ∧
      (∃ k, issuerKey decoded key = .ok k ∧ isSignedBy decoded k = true) ∧
      ¬ validator.deadline decoded.claims ≤ now := by
  unfold check
  by_cases halg : decoded.header.algorithm = acceptedAlgorithm
  · cases hkey : issuerKey decoded key with
    | error e => simp [halg, bind, Except.bind]
    | ok k =>
      by_cases hsigned : isSignedBy decoded k = true
      · by_cases hlate : validator.deadline decoded.claims ≤ now
        · simp [halg, hsigned, hlate, bind, Except.bind, pure, Except.pure]
        · simp [halg, hsigned, hlate, bind, Except.bind, pure, Except.pure]
      · simp [halg, hsigned, bind, Except.bind, pure, Except.pure]
  · simp [halg, throw, throwThe, MonadExceptOf.throw, bind, Except.bind]

/-- A token is taken apart from its text as it was when it was read. -/
theorem validateAt_text (token : Token) (key : Option Ed25519.PublicKey) :
    validator.validateAt token.text key now = validator.check token.decoded key now := by
  rw [validateAt, token.decoded_eq]
  rfl

end Validator

end FederatedAccess
