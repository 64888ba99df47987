import FederatedAccess.Proofs.Carriers
import FederatedAccess.Proofs.Duration

/-!
# The window of freshness

A challenge, a request and the response of a service are checked at different places for their time,
before or after everything else. Whatever is received, be it honest or made up, the time and the
threshold take part in its check through its freshness alone (`verify_congr`), and what is not fresh
is not accepted (`isFresh_of_verify`). The window is therefore the same for all three
(`accepted_in_window`).
-/

namespace FederatedAccess

/-- What is received as a proof, whether or not it is one. -/
inductive ReceivedProof
  /-- A challenge, for some tokens. -/
  | challenge (tokens : List Token) (challenge : ApplicationChallenge)
  /-- A request with its credentials. -/
  | request (request : SecurityRequest)
  /-- The response of a service that has a key. -/
  | response (text : String) (key : Ed25519.PublicKey)

namespace ReceivedProof

/-- The time that was received. There is none in a response that cannot be read. -/
def timestamp? : ReceivedProof → Option Int64
  | .challenge _ received => some received.timestamp
  | .request received => some received.timestamp
  | .response text _ => (ServiceProof.ofText? text).map (·.timestamp)

def verify (authenticator : Authenticator) (now : Int64) : ReceivedProof → Except ProofError Bool
  | .challenge tokens received => authenticator.verifyChallenge tokens received now
  | .request received => authenticator.verifyRequest received now
  | .response text key => authenticator.verifyResponse text key now

variable {proof : ReceivedProof} {authenticator other : Authenticator} {now later : Int64}

/-- **Accepted, so fresh.** Each of the three checks passes only what is fresh. -/
theorem isFresh_of_verify (h : proof.verify authenticator now = .ok true) :
    ∃ timestamp, proof.timestamp? = some timestamp ∧
      authenticator.isFresh timestamp now = true := by
  cases proof with
  | challenge tokens challenge => exact ⟨_, rfl, (Authenticator.verifyChallenge_iff.1 h).1⟩
  | request request => exact ⟨_, rfl, (Authenticator.verifyRequest_iff.1 h).1⟩
  | response text key =>
    have h : authenticator.verifyResponse text key now = .ok true := h
    unfold Authenticator.verifyResponse at h
    cases hread : ServiceProof.ofText? text with
    | none =>
      rw [hread] at h
      cases h
    | some found =>
      rw [hread] at h
      refine ⟨found.timestamp, by rw [timestamp?, hread, Option.map_some], ?_⟩
      exact (Bool.and_eq_true_iff.1 (Except.ok.inj h)).2

/-- **Nothing but freshness.** Two verifiers at two times agree on what is as fresh for one as for
the other. -/
theorem verify_congr (h : ∀ timestamp, proof.timestamp? = some timestamp →
      authenticator.isFresh timestamp now = other.isFresh timestamp later) :
    proof.verify authenticator now = proof.verify other later := by
  cases proof with
  | challenge tokens challenge =>
    show authenticator.verifyChallenge tokens challenge now =
      other.verifyChallenge tokens challenge later
    unfold Authenticator.verifyChallenge
    rw [h challenge.timestamp rfl]
  | request request =>
    show authenticator.verifyRequest request now = other.verifyRequest request later
    unfold Authenticator.verifyRequest
    rw [h request.timestamp rfl]
  | response text key =>
    show authenticator.verifyResponse text key now = other.verifyResponse text key later
    unfold Authenticator.verifyResponse
    cases hread : ServiceProof.ofText? text with
    | none => rfl
    | some found =>
      have hfresh := h found.timestamp (by rw [timestamp?, hread, Option.map_some])
      simp only [hfresh]

/-- What is accepted lies within the window. -/
theorem within_of_verify (h : proof.verify authenticator now = .ok true) :
    ∃ timestamp, proof.timestamp? = some timestamp ∧
      (now.toInt - timestamp.toInt).natAbs < min authenticator.freshness.millis Time.greatest := by
  obtain ⟨timestamp, htime, hfresh⟩ := isFresh_of_verify h
  exact ⟨timestamp, htime, Authenticator.isFresh_iff.1 hfresh⟩

/-- A time as far away counts the same, in the past or in the future. -/
theorem verify_of_distance_eq {timestamp mirrored : Int64}
    (htime : proof.timestamp? = some timestamp)
    (hdistance : (mirrored.toInt - timestamp.toInt).natAbs =
      (now.toInt - timestamp.toInt).natAbs) :
    proof.verify authenticator mirrored = proof.verify authenticator now := by
  apply verify_congr
  intro found hfound
  obtain rfl : timestamp = found := Option.some.inj (htime.symm.trans hfound)
  rw [Bool.eq_iff_iff, Authenticator.isFresh_iff, Authenticator.isFresh_iff, hdistance]

theorem verify_of_freshness_le (hlonger : authenticator.freshness ≤ other.freshness)
    (h : proof.verify authenticator now = .ok true) : proof.verify other now = .ok true := by
  obtain ⟨timestamp, htime, hwithin⟩ := within_of_verify h
  have hmillis := Duration.millis_le_of_le hlonger
  have hother : (now.toInt - timestamp.toInt).natAbs <
      min other.freshness.millis Time.greatest := by omega
  rw [← h]
  apply verify_congr
  intro found hfound
  obtain rfl : timestamp = found := Option.some.inj (htime.symm.trans hfound)
  rw [Authenticator.isFresh_iff.2 hwithin, Authenticator.isFresh_iff.2 hother]

/-- **Nothing is accepted outside the window.** The time of what is accepted is less than the
threshold away from the present, in whole milliseconds and as the integers they are; a threshold
counts up to the greatest time. The window reaches as far back as ahead, it is empty for a threshold
below a millisecond, and what is accepted is accepted under any longer threshold. -/
theorem accepted_in_window (proof : ReceivedProof) :
    (∀ (authenticator : Authenticator) (now : Int64), proof.verify authenticator now = .ok true →
      ∃ timestamp, proof.timestamp? = some timestamp ∧
        (now.toInt - timestamp.toInt).natAbs <
          min authenticator.freshness.millis Time.greatest) ∧
    (∀ (authenticator : Authenticator) (timestamp now mirrored : Int64),
      proof.timestamp? = some timestamp →
      (mirrored.toInt - timestamp.toInt).natAbs = (now.toInt - timestamp.toInt).natAbs →
        proof.verify authenticator mirrored = proof.verify authenticator now) ∧
    (∀ (authenticator : Authenticator) (now : Int64),
      authenticator.freshness.inNanos < 1000000 → proof.verify authenticator now ≠ .ok true) ∧
    ∀ (authenticator patient : Authenticator) (now : Int64),
      authenticator.freshness ≤ patient.freshness →
        proof.verify authenticator now = .ok true → proof.verify patient now = .ok true := by
  refine ⟨?_, ?_, ?_, ?_⟩
  · intro authenticator now haccepted
    exact within_of_verify haccepted
  · intro authenticator timestamp now mirrored htime hdistance
    exact verify_of_distance_eq htime hdistance
  · intro authenticator now hshort haccepted
    obtain ⟨timestamp, -, hwithin⟩ := within_of_verify haccepted
    rw [Duration.millis_eq_zero hshort, Nat.zero_min] at hwithin
    exact absurd hwithin (Nat.not_lt_zero _)
  · intro authenticator patient now hlonger haccepted
    exact verify_of_freshness_le hlonger haccepted

/-! ## The response of a holder -/

/-- What a service responds one millisecond before the epoch. -/
def heldResponse : ReceivedProof :=
  .response (Proof.serviceResponse Authenticator.holderKey (-1))
    Authenticator.holderKey.publicKey

/-- A verifier with a threshold of some seconds. -/
def withinSeconds (seconds : UInt64) : Authenticator := ⟨Duration.ofSeconds seconds⟩

/-- A verifier whose threshold lacks a nanosecond to a millisecond. -/
def withinLessThanMilli : Authenticator where
  freshness := { seconds := 0, nanos := 999999 }

/-- The response is accepted up to a millisecond before the hour is over, as far back, and under the
longest threshold; no threshold reaches the ends of time, and one below a millisecond reaches
nothing. -/
theorem held_response_in_window :
    heldResponse.verify (withinSeconds 3600) 3599998 = .ok true ∧
      heldResponse.verify (withinSeconds 3600) (-3600000) = .ok true ∧
      heldResponse.verify (withinSeconds 3600) 3599999 ≠ .ok true ∧
      heldResponse.verify (withinSeconds 0xFFFFFFFFFFFFFFFF) 3599998 = .ok true ∧
      heldResponse.verify (withinSeconds 0xFFFFFFFFFFFFFFFF) Int64.maxValue ≠ .ok true ∧
      heldResponse.verify (withinSeconds 0xFFFFFFFFFFFFFFFF) Int64.minValue ≠ .ok true ∧
      heldResponse.verify withinLessThanMilli (-1) ≠ .ok true := by
  have htime : heldResponse.timestamp? = some (-1) := by
    rw [heldResponse, timestamp?, Proof.serviceResponse, ServiceProof.ofText?_text,
      Option.map_some]
  have hheld : heldResponse.verify (withinSeconds 3600) 3599998 =
      .ok ((withinSeconds 3600).isFresh (-1) 3599998) := by
    rw [heldResponse, verify]
    exact Authenticator.verifyResponse_serviceResponse Authenticator.holderKey_signs.2
  have hsoon : heldResponse.verify (withinSeconds 3600) 3599998 = .ok true := by
    rw [hheld, Authenticator.isFresh_iff.2 (by decide)]
  obtain ⟨hwindow, hmirrored, hempty, hpatient⟩ := accepted_in_window heldResponse
  have hrefused : ∀ (authenticator : Authenticator) (now : Int64),
      ¬ (now.toInt - (-1 : Int64).toInt).natAbs <
          min authenticator.freshness.millis Time.greatest →
        heldResponse.verify authenticator now ≠ .ok true := by
    intro authenticator now hfar haccepted
    obtain ⟨timestamp, hfound, hwithin⟩ := hwindow authenticator now haccepted
    obtain rfl : -1 = timestamp := Option.some.inj (htime.symm.trans hfound)
    exact hfar hwithin
  refine ⟨hsoon, ?_, ?_, ?_, ?_, ?_, ?_⟩
  · rw [hmirrored _ (-1) 3599998 (-3600000) htime (by decide), hsoon]
  · exact hrefused _ _ (by decide)
  · exact hpatient _ _ _ (by decide) hsoon
  · exact hrefused _ _ (by decide)
  · exact hrefused _ _ (by decide)
  · exact hempty _ _ (by decide)

end ReceivedProof

end FederatedAccess
