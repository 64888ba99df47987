import FederatedAccess.Proof.Possession
import FederatedAccess.Proofs.Results
import FederatedAccess.Proofs.Time

/-!
# When possession is proved

A request is proved when its time is fresh and the holder of every token, guests excepted, has
signed the hash of token and time with the key that the token names. Each equivalence below is the
exact condition of one check.
-/

namespace FederatedAccess

/-- The key of a holder is the one that the token names, if it names a usable one. -/
theorem Proof.subjectKey_ok_iff {token : Token} {key : Ed25519.PublicKey} :
    subjectKey token = .ok key ↔
      ∃ wire, token.claims.subjectKey = some wire ∧ Ed25519.PublicKey.ofWire wire = .ok key := by
  unfold subjectKey
  cases token.claims.subjectKey with
  | none => simp
  | some wire => simp [mapError_ok_iff]

namespace Authenticator

variable {authenticator : Authenticator} {timestamp now : Int64}

/-- **Freshness.** A time is fresh when it lies strictly within the window around now, in both
directions. No window is wider than the range of times. -/
theorem isFresh_iff :
    authenticator.isFresh timestamp now = true ↔
      (now.toInt - timestamp.toInt).natAbs < min authenticator.freshness.millis Time.greatest := by
  rw [← Time.sub_within_iff]
  simp [isFresh]

theorem provesPossession_iff {credentials : SecurityCredentials} :
    provesPossession timestamp credentials = .ok true ↔
      ∃ token, Token.parse credentials.token = .ok token ∧
        (token.tokenType = .guest ∨
          ∃ key, Proof.subjectKey token = .ok key ∧
            key.verifiesText (Proof.challengeHash token.text timestamp) credentials.challenge) := by
  unfold provesPossession
  rw [except_bind_ok_iff]
  simp only [mapError_ok_iff]
  refine exists_congr fun token => and_congr_right fun _ => ?_
  by_cases hguest : token.tokenType = .guest
  · simp [hguest, except_pure_ok_iff]
  · simp only [hguest, if_false, false_or]
    rw [except_bind_ok_iff]
    refine exists_congr fun key => and_congr_right fun _ => ?_
    exact except_pure_ok_iff

/-- Credentials are looked at up to the first that fails, so all succeed only when each does. -/
theorem allProve_iff {credentials : List SecurityCredentials} :
    allProve timestamp credentials = .ok true ↔
      ∀ c ∈ credentials, provesPossession timestamp c = .ok true := by
  induction credentials with
  | nil => simp [allProve, except_pure_ok_iff]
  | cons c rest ih =>
    rw [allProve, except_bind_ok_iff, List.forall_mem_cons, ← ih]
    constructor
    · rintro ⟨proved, hc, hrest⟩
      cases proved with
      | true => exact ⟨hc, by simpa using hrest⟩
      | false => simp [except_pure_ok_iff] at hrest
    · rintro ⟨hc, hrest⟩
      exact ⟨true, hc, by simpa using hrest⟩

theorem verifyRequest_iff {request : SecurityRequest} :
    authenticator.verifyRequest request now = .ok true ↔
      authenticator.isFresh request.timestamp now = true ∧
        ∀ c ∈ request.credentials, provesPossession request.timestamp c = .ok true := by
  unfold verifyRequest
  split
  · rename_i hfresh
    rw [allProve_iff]
    exact ⟨fun h => ⟨hfresh, h⟩, fun h => h.2⟩
  · rename_i hstale
    simp [hstale]

end Authenticator

end FederatedAccess
