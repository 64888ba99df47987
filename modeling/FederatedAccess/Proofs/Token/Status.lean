import FederatedAccess.Proofs.Component.TrustChain
import FederatedAccess.Proofs.Duration
import FederatedAccess.Proofs.Token.Accepted
import FederatedAccess.Proofs.Token.Issuing

/-!
# The status of a token over time

What is wrong with a token is looked at before its end. An error or a refused signature is therefore
the outcome at all times and for every leeway (`IsTimeless`), and only a token with a good signature
(`IsSigned`) has a status that time changes: once, from valid to expired, at its end put off by the
leeway (`status_is_threshold`).
-/

namespace FederatedAccess

/-- Blank characters around a text do not count. -/
theorem DecodedToken.ofText_trim (text : String) : ofText (Text.trim text) = ofText text := by
  have hchars : Text.trimChars (Text.trim text).toList = Text.trimChars text.toList := by
    rw [Text.trim, String.toList_ofList, Text.trimChars_trimChars]
  rw [ofText, ofText, hchars]

namespace Validator

variable {validator : Validator} {text : String} {decoded : DecodedToken}
  {given : Option Ed25519.PublicKey} {now : Int64}

/-- An outcome in which time has no part. -/
def IsTimeless (outcome : Except ValidationError ValidationStatus) : Prop :=
  (∃ e, outcome = .error e) ∨ outcome = .ok .invalidTrustChain

/-- The text is taken apart into what is signed, header and body as they stand in it, and 64 octets
that are a signature of this text. The key is the given one; only where none is given, it is the one
in the token. -/
structure IsSigned (text : String) (given : Option Ed25519.PublicKey) (decoded : DecodedToken) :
    Prop where
  read : DecodedToken.ofText text = .ok decoded
  algorithm : decoded.header.algorithm = "EdDSA"
  signed : ∃ (key : Ed25519.PublicKey) (header body segment : String),
    (given = some key ∨
      given = none ∧ Ed25519.PublicKey.ofWire decoded.claims.issuerKey = .ok key) ∧
    Text.trim text = header ++ "." ++ body ++ "." ++ segment ∧
    (∀ part ∈ [header, body, segment], '.' ∉ part.toList) ∧
    Base64.decodeUrl? segment = some decoded.signature ∧
    decoded.signature.length = 64 ∧
    key.verifiesStrictly (Utf8.encode (header ++ "." ++ body)) decoded.signature = true

/-! ## Outcomes of a check -/

theorem issuerKey_ok_iff {key : Ed25519.PublicKey} :
    issuerKey decoded given = .ok key ↔ given = some key ∨
      given = none ∧ Ed25519.PublicKey.ofWire decoded.claims.issuerKey = .ok key := by
  cases given with
  | some found => simp [issuerKey]
  | none => simp [issuerKey, mapError_ok_iff]

/-- **Checks.** A check ends with the same error, or the same refusal, at all times, or the token is
signed and its status is settled by its end. -/
theorem check_cases (decoded : DecodedToken) (given : Option Ed25519.PublicKey) :
    (∃ outcome, IsTimeless outcome ∧
      ∀ (validator : Validator) (now : Int64), validator.check decoded given now = outcome) ∨
    (decoded.header.algorithm = acceptedAlgorithm ∧
      (∃ key, issuerKey decoded given = .ok key ∧ isSignedBy decoded key = true) ∧
      ∀ (validator : Validator) (now : Int64),
        validator.check decoded given now = .ok (validator.statusAt decoded.claims now)) := by
  by_cases halgorithm : decoded.header.algorithm = acceptedAlgorithm
  · cases hkey : issuerKey decoded given with
    | error e =>
      refine Or.inl ⟨.error e, Or.inl ⟨e, rfl⟩, fun validator now => ?_⟩
      simp [check, halgorithm, hkey, bind, Except.bind]
    | ok key =>
      by_cases hsigned : isSignedBy decoded key = true
      · refine Or.inr ⟨halgorithm, ⟨key, rfl, hsigned⟩, fun validator now => ?_⟩
        exact check_of_isSignedBy now halgorithm hkey hsigned
      · refine Or.inl ⟨.ok .invalidTrustChain, Or.inr rfl, fun validator now => ?_⟩
        simp [check, halgorithm, hkey, hsigned, bind, Except.bind, pure, Except.pure]
  · refine Or.inl ⟨.error (.algorithmMismatch decoded.header.algorithm), Or.inl ⟨_, rfl⟩,
      fun validator now => ?_⟩
    simp [check, halgorithm, throw, throwThe, MonadExceptOf.throw, bind, Except.bind]

/-! ## Outcomes for a text -/

theorem validateAt_of_read (h : DecodedToken.ofText text = .ok decoded) :
    validator.validateAt text given now = validator.check decoded given now := by
  rw [validateAt, h]
  rfl

theorem validateAt_of_malformed {e : MalformedToken} (h : DecodedToken.ofText text = .error e) :
    validator.validateAt text given now = .error (.malformed e) := by
  rw [validateAt, h]
  rfl

/-- What is checked of a signed token is what its text says. -/
theorem isSigned_of_check {key : Ed25519.PublicKey} (hread : DecodedToken.ofText text = .ok decoded)
    (halgorithm : decoded.header.algorithm = acceptedAlgorithm)
    (hkey : issuerKey decoded given = .ok key) (hsigned : isSignedBy decoded key = true) :
    IsSigned text given decoded := by
  obtain ⟨h, b, s, _, _, _, htext, hheader, -, hbody, -, hsignature, -, hinput⟩ :=
    DecodedToken.ofText_ok_iff.1 hread
  have hdecode : Base64.decodeChars Base64.urlSafe .optional s = some decoded.signature :=
    (Base64.decodeChars_eq_some_iff Base64.urlSafe_faithful).2 hsignature
  have hjoined : decoded.signingInput = String.ofList h ++ "." ++ String.ofList b := by
    rw [hinput]
    apply String.toList_inj.1
    simp
  refine ⟨hread, halgorithm, key, String.ofList h, String.ofList b, String.ofList s,
    issuerKey_ok_iff.1 hkey, ?_, ?_, ?_, ?_, ?_⟩
  · apply String.toList_inj.1
    rw [Text.trim, String.toList_ofList, htext]
    simp
  · intro part hpart
    simp only [List.mem_cons, List.not_mem_nil, or_false] at hpart
    rcases hpart with rfl | rfl | rfl
    · rw [String.toList_ofList]
      exact hheader.dot_not_mem
    · rw [String.toList_ofList]
      exact hbody.dot_not_mem
    · rw [String.toList_ofList]
      exact hsignature.dot_not_mem
  · rw [Base64.decodeUrl?, String.toList_ofList, hdecode]
  · exact Ed25519.PublicKey.length_of_verifiesStrictly hsigned
  · rw [← hjoined]
    exact hsigned

/-- **Texts.** The outcome for a text is timeless, or the text is a signed token whose status is
settled by its end. -/
theorem validateAt_cases (text : String) (given : Option Ed25519.PublicKey) :
    (∃ outcome, IsTimeless outcome ∧
      ∀ (validator : Validator) (now : Int64), validator.validateAt text given now = outcome) ∨
    ∃ decoded, IsSigned text given decoded ∧ ∀ (validator : Validator) (now : Int64),
      validator.validateAt text given now = .ok (validator.statusAt decoded.claims now) := by
  cases hread : DecodedToken.ofText text with
  | error e =>
    exact Or.inl ⟨_, Or.inl ⟨_, rfl⟩, fun validator now => validateAt_of_malformed hread⟩
  | ok decoded =>
    rcases check_cases decoded given with ⟨outcome, htimeless, hcheck⟩ | ⟨halgorithm, hkey, hcheck⟩
    · refine Or.inl ⟨outcome, htimeless, fun validator now => ?_⟩
      rw [validateAt_of_read hread, hcheck]
    · obtain ⟨key, hkey, hsigned⟩ := hkey
      refine Or.inr ⟨decoded, isSigned_of_check hread halgorithm hkey hsigned,
        fun validator now => ?_⟩
      rw [validateAt_of_read hread, hcheck]

/-! ## Status over time -/

theorem statusAt_eq_valid_iff {claims : Claims} :
    validator.statusAt claims now = .valid ↔
      now.toInt < min (claims.expiration.toInt + min validator.leeway.seconds.toNat Time.greatest)
        Time.greatest := by
  unfold statusAt
  split <;> simp_all

theorem statusAt_eq_expired_iff {claims : Claims} :
    validator.statusAt claims now = .expired ↔
      ¬ now.toInt < min (claims.expiration.toInt + min validator.leeway.seconds.toNat Time.greatest)
        Time.greatest := by
  unfold statusAt
  split <;> simp_all

theorem not_isTimeless_statusAt {claims : Claims} :
    ¬ IsTimeless (.ok (validator.statusAt claims now)) := by
  rintro (⟨e, h⟩ | h)
  · cases h
  · unfold statusAt at h
    split at h <;> cases h

/-- An outcome that is not timeless is that of a signed token. -/
theorem validateAt_of_not_isTimeless (h : ¬ IsTimeless (validator.validateAt text given now)) :
    ∃ decoded, IsSigned text given decoded ∧ ∀ (other : Validator) (time : Int64),
      other.validateAt text given time = .ok (other.statusAt decoded.claims time) := by
  rcases validateAt_cases text given with ⟨outcome, htimeless, hall⟩ | hsigned
  · rw [hall] at h
    exact absurd htimeless h
  · exact hsigned

/-- A timeless outcome is the outcome at all times and for every leeway. -/
theorem validateAt_of_isTimeless (h : IsTimeless (validator.validateAt text given now))
    (other : Validator) (time : Int64) :
    other.validateAt text given time = validator.validateAt text given now := by
  rcases validateAt_cases text given with ⟨outcome, -, hall⟩ | ⟨decoded, -, hall⟩
  · rw [hall, hall]
  · rw [hall] at h
    exact absurd h not_isTimeless_statusAt

/-- A token stays expired. -/
theorem expired_of_le {later : Int64} (hlater : now ≤ later)
    (h : validator.validateAt text given now = .ok .expired) :
    validator.validateAt text given later = .ok .expired := by
  have htimed : ¬ IsTimeless (validator.validateAt text given now) := by
    simp [h, IsTimeless]
  obtain ⟨decoded, -, hall⟩ := validateAt_of_not_isTimeless htimed
  rw [hall, Except.ok.injEq, statusAt_eq_expired_iff] at h ⊢
  have htimes : now.toInt ≤ later.toInt := Int64.le_iff_toInt_le.1 hlater
  omega

/-- A longer leeway leaves a valid token valid. -/
theorem valid_of_leeway_le {patient : Validator} (hleeway : validator.leeway ≤ patient.leeway)
    (h : validator.validateAt text given now = .ok .valid) :
    patient.validateAt text given now = .ok .valid := by
  have htimed : ¬ IsTimeless (validator.validateAt text given now) := by
    simp [h, IsTimeless]
  obtain ⟨decoded, -, hall⟩ := validateAt_of_not_isTimeless htimed
  rw [hall, Except.ok.injEq, statusAt_eq_valid_iff] at h ⊢
  have hseconds := Duration.seconds_le_of_le hleeway
  omega

/-- A key that is found by the claims counts like a given one. -/
theorem validateWith_eq_validateAt {resolve : Claims → Option Ed25519.PublicKey}
    (h : ∀ decoded, DecodedToken.ofText text = .ok decoded → resolve decoded.claims = given) :
    validator.validateWith text resolve now = validator.validateAt text given now := by
  unfold validateWith validateAt
  cases hread : DecodedToken.ofText text with
  | error e => rfl
  | ok decoded =>
    rw [← h decoded hread]
    rfl

/-- **Status over time.** An error or a refusal is the outcome at all times and for every leeway.
Any other outcome means that the token is signed; it is then valid before the end of the token, put
off by the leeway, and expired from there on, where end and leeway stop at the greatest time. So a
token stays expired, a longer leeway leaves a valid token valid, and a key that is found by the
claims counts like a given one. -/
theorem status_is_threshold (text : String) (given : Option Ed25519.PublicKey) :
    (∀ (validator : Validator) (now : Int64),
      IsTimeless (validator.validateAt text given now) →
        ∀ (other : Validator) (time : Int64),
          other.validateAt text given time = validator.validateAt text given now) ∧
    (∀ (validator : Validator) (now : Int64),
      ¬ IsTimeless (validator.validateAt text given now) →
        ∃ decoded, IsSigned text given decoded ∧ ∀ (other : Validator) (time : Int64),
          other.validateAt text given time =
            .ok (if time.toInt < min (decoded.claims.expiration.toInt +
                min other.leeway.seconds.toNat Time.greatest) Time.greatest
              then .valid else .expired)) ∧
    (∀ (validator : Validator) (now later : Int64), now ≤ later →
      validator.validateAt text given now = .ok .expired →
        validator.validateAt text given later = .ok .expired) ∧
    (∀ (validator patient : Validator) (now : Int64), validator.leeway ≤ patient.leeway →
      validator.validateAt text given now = .ok .valid →
        patient.validateAt text given now = .ok .valid) ∧
    ∀ (validator : Validator) (resolve : Claims → Option Ed25519.PublicKey) (now : Int64),
      (∀ decoded, DecodedToken.ofText text = .ok decoded → resolve decoded.claims = given) →
        validator.validateWith text resolve now = validator.validateAt text given now := by
  refine ⟨?_, ?_, ?_, ?_, ?_⟩
  · intro validator now htimeless
    exact validateAt_of_isTimeless htimeless
  · intro validator now htimed
    exact validateAt_of_not_isTimeless htimed
  · intro validator now later hlater hexpired
    exact expired_of_le hlater hexpired
  · intro validator patient now hleeway hvalid
    exact valid_of_leeway_le hleeway hvalid
  · intro validator resolve now hresolve
    exact validateWith_eq_validateAt hresolve

/-! ## A token under two leeways -/

/-- The greatest leeway, which is cut off at the greatest time. -/
def longLeeway : Validator := ⟨Duration.ofSeconds 0xFFFFFFFFFFFFFFFF⟩

/-- The guest's token ends at the hundredth second, or with time if the leeway is long. Without the
key of its AAM there is the same error at all times, since the one in the token cannot be used. -/
theorem guest_status_over_time :
    ∃ key, Component.issuerCertificate.publicKey = .ok key ∧
      ¬ IsTimeless (validateAt {} Component.guestText (some key) 99) ∧
      validateAt {} Component.guestText (some key) 99 = .ok .valid ∧
      validateAt {} Component.guestText (some key) 100 = .ok .expired ∧
      validateAt {} Component.guestText (some key) Int64.maxValue = .ok .expired ∧
      longLeeway.validateAt Component.guestText (some key) 99 = .ok .valid ∧
      longLeeway.validateAt Component.guestText (some key) (Int64.maxValue - 1) = .ok .valid ∧
      longLeeway.validateAt Component.guestText (some key) Int64.maxValue = .ok .expired ∧
      ∀ (validator : Validator) (now : Int64),
        validator.validateAt Component.guestText none now = .error (.issuerKey .document) := by
  obtain ⟨token, key, hparse, hkey, -, -, halgorithm, hexp, hsigned⟩ :=
    Component.exists_signed_guest Component.guestText_isSignedGuest
  have hdecoded : DecodedToken.ofText Component.guestText = .ok token.decoded := by
    rw [← DecodedToken.ofText_trim, Token.parse_ok_iff.1 hparse, token.decoded_eq]
  have hvalid : validateAt {} Component.guestText (some key) 99 = .ok .valid := by
    rw [validateAt_of_read hdecoded, check_of_isSignedBy 99 halgorithm rfl hsigned,
      Except.ok.injEq, statusAt_eq_valid_iff]
    show _ < min (token.claims.expiration.toInt + _) _
    rw [hexp]
    decide
  have htimed : ¬ IsTimeless (validateAt {} Component.guestText (some key) 99) := by
    simp [hvalid, IsTimeless]
  obtain ⟨-, hstatus, hexpired, hpatient, -⟩ :=
    status_is_threshold Component.guestText (some key)
  obtain ⟨decoded, hread, hstatus⟩ := hstatus {} 99 htimed
  have hend : decoded.claims.expiration = 100 := by
    rw [Except.ok.inj (hread.read.symm.trans hdecoded)]
    exact hexp
  have hexpiredAt : validateAt {} Component.guestText (some key) 100 = .ok .expired := by
    rw [hstatus, hend]
    rfl
  have herror : validateAt {} Component.guestText none 99 = .error (.issuerKey .document) := by
    decide +kernel
  obtain ⟨htimeless, -⟩ := status_is_threshold Component.guestText none
  refine ⟨key, hkey, htimed, hvalid, hexpiredAt, ?_, ?_, ?_, ?_, ?_⟩
  · exact hexpired {} 100 Int64.maxValue (by decide) hexpiredAt
  · exact hpatient {} longLeeway 99 (Nat.zero_le _) hvalid
  · rw [hstatus, hend]
    rfl
  · rw [hstatus, hend]
    rfl
  · intro validator now
    rw [htimeless {} 99 (Or.inl ⟨_, herror⟩) validator now, herror]

end Validator

end FederatedAccess
