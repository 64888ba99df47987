import FederatedAccess.Proofs.Component.Grants
import FederatedAccess.Proofs.Possession

/-!
# The whole request and its credentials one by one

A component looks at a request in two ways. The status of a request goes through its credentials
after all of them were proved; the resources that it opens are found by single checks. In steady
surroundings both come to the same for a request with some credentials.

Credentials are needed for this. Without any, a request is valid only if it is fresh and the AAMs
are known, while there is nothing to check one by one.
-/

namespace FederatedAccess

/-- The same request, with its credentials in another order. -/
structure SecurityRequest.Reorders (listed request : SecurityRequest) : Prop where
  timestamp_eq : listed.timestamp = request.timestamp
  credentials_perm : listed.credentials.Perm request.credentials

namespace Component

open Operation

variable {component : Component} {around : Surroundings} {timestamp : Int64} {past : History}
  {request listed : SecurityRequest} {c : SecurityCredentials} {order : VisitingOrder}
  {resource : String}

/-! ## Single checks -/

/-- A check that ended early is not kept as valid. -/
theorem recorded_eq_valid_iff {result : Except HandlerError ValidationStatus} :
    recorded result = .valid ↔ result = .ok .valid := by
  cases result <;> simp [recorded]

theorem singleStatus_valid_iff :
    ((component.singleStatus timestamp c).run around past).1 = .ok .valid ↔
      ((component.requestStatus (.ofList [c] timestamp)).run around past).1 = .ok .valid := by
  rw [run_singleStatus, Except.ok.injEq, recorded_eq_valid_iff]

section Steady

variable (steady : around.Steady)

include steady

theorem firstStatus_valid_iff_forall {aams : Dictionary Aam}
    {credentials : List SecurityCredentials} :
    ((component.firstStatus aams credentials).run around past).1 = .ok .valid ↔
      ∀ c ∈ credentials, ((component.tokenStatus aams c).run around past).1 = .ok .valid := by
  induction credentials with
  | nil => simp [firstStatus]
  | cons c rest ih =>
    rw [firstStatus_cons_valid_iff, List.forall_mem_cons, ← ih,
      firstStatus_repeatable steady aams rest _ past]

/-- What the status of a request demands of each of its credentials, besides of its time. -/
theorem requestStatus_valid_iff_forall :
    ((component.requestStatus request).run around past).1 = .ok .valid ↔
      component.configuration.authenticator.isFresh request.timestamp
        (around.clock past).millis = true ∧
      ∃ aams, (component.knownAams.run around past).1 = .ok aams ∧
        ∀ c ∈ request.credentials,
          Authenticator.provesPossession request.timestamp c = .ok true ∧
          ((component.tokenStatus aams c).run around past).1 = .ok .valid := by
  rw [requestStatus_valid_iff, Authenticator.verifyRequest_iff,
    knownAams_repeatable steady past.read past]
  constructor
  · rintro ⟨⟨hfresh, hproved⟩, aams, haams, hvalid⟩
    refine ⟨hfresh, aams, haams, fun c hc => ⟨hproved c hc, ?_⟩⟩
    rw [firstStatus_repeatable steady aams _ _ past] at hvalid
    exact (firstStatus_valid_iff_forall steady).1 hvalid c hc
  · rintro ⟨hfresh, aams, haams, hall⟩
    refine ⟨⟨hfresh, fun c hc => (hall c hc).1⟩, aams, haams, ?_⟩
    rw [firstStatus_repeatable steady aams _ _ past]
    exact (firstStatus_valid_iff_forall steady).2 fun c hc => (hall c hc).2

/-- **A request and its credentials.** A request with some credentials is valid exactly when each of
them is valid alone. The time and the AAMs are demanded of the request once and of each of its
credentials again, so they must hold for one of them at least. -/
theorem requestStatus_valid_iff_single (hsome : request.credentials ≠ []) :
    ((component.requestStatus request).run around past).1 = .ok .valid ↔
      ∀ c ∈ request.credentials,
        ((component.singleStatus request.timestamp c).run around past).1 = .ok .valid := by
  simp only [singleStatus_valid_iff, requestStatus_valid_iff_forall steady]
  have hsingle : ∀ c, (SecurityRequest.ofList [c] request.timestamp).credentials = [c] :=
    fun _ => rfl
  have htime : ∀ c, (SecurityRequest.ofList [c] request.timestamp).timestamp = request.timestamp :=
    fun _ => rfl
  simp only [hsingle, htime, List.forall_mem_singleton]
  constructor
  · rintro ⟨hfresh, aams, haams, hall⟩ c hc
    exact ⟨hfresh, aams, haams, hall c hc⟩
  · intro h
    obtain ⟨first, hfirst⟩ := List.exists_mem_of_ne_nil _ hsome
    obtain ⟨hfresh, aams, haams, -⟩ := h first hfirst
    refine ⟨hfresh, aams, haams, fun c hc => ?_⟩
    -- every single check has asked for the AAMs itself and got the same answer
    obtain ⟨-, aams', haams', hvalid⟩ := h c hc
    obtain rfl : aams = aams' := Except.ok.inj (haams.symm.trans haams')
    exact hvalid

/-! ## A resource without a policy -/

omit steady in
/-- Credentials that are valid alone hold a token. -/
theorem exists_token_of_valid
    (h : ((component.singleStatus timestamp c).run around past).1 = .ok .valid) :
    ∃ token, Token.parse c.token = .ok token := by
  obtain ⟨hproved, -⟩ := requestStatus_valid_iff.1 (singleStatus_valid_iff.1 h)
  have hc := (Authenticator.verifyRequest_iff.1 hproved).2 c List.mem_cons_self
  obtain ⟨token, hparse, -⟩ := Authenticator.provesPossession_iff.1 hc
  exact ⟨token, hparse⟩

/-- The resource is granted exactly when all credentials are valid alone. -/
theorem satisfiedPoliciesIn_single_none_iff [Pattern.SizeLimit] :
    ((component.satisfiedPoliciesIn order (Dictionary.single resource none) request).run around
        past).1 = .ok (Catalog.ofList [resource]) ↔
      ∀ c ∈ request.credentials,
        ((component.singleStatus request.timestamp c).run around past).1 = .ok .valid := by
  have hopens : Resolution.Opens request
      (fun c => component.validAlone around past request.timestamp c = true) none ↔
      ∀ c ∈ request.credentials,
        ((component.singleStatus request.timestamp c).run around past).1 = .ok .valid := by
    simp only [Resolution.Opens, validAlone_iff]
  constructor
  · intro h
    cases hresolved : request.resolve (Dictionary.single resource none) with
    | error e =>
      rw [satisfiedPoliciesIn_error component order around past hresolved] at h
      cases h
    | ok resolved =>
      have hmem : resource ∈ (Catalog.ofList [resource] : TextSet) :=
        (Catalog.mem_ofList fun _ _ h => h).2 List.mem_cons_self
      exact hopens.1 ((mem_granted_single_iff steady hresolved h past).1 hmem).2
  · intro hvalid
    obtain ⟨presented, hpresented⟩ := Resolution.exists_presented fun c hc =>
      exists_token_of_valid (hvalid c hc)
    exact satisfiedPoliciesIn_single_of_opens steady hpresented (hopens.2 hvalid)

end Steady

/-- **Both ways agree.** For a request with some credentials in steady surroundings, whatever the
order in which either way takes them and whenever it does: the request is valid, a resource open to
everyone is granted to it, and each of its credentials is valid alone, or none of these. -/
theorem requestStatus_valid_iff_each [Pattern.SizeLimit] (component : Component)
    (around : Surroundings) (steady : around.Steady) (request listed : SecurityRequest)
    (reorders : listed.Reorders request) (hsome : request.credentials ≠ [])
    (order : VisitingOrder) (resource : String) (past past' past'' : History) :
    (((component.requestStatus request).run around past).1 = .ok .valid ↔
      ((component.satisfiedPoliciesIn order (Dictionary.single resource none) listed).run around
        past').1 = .ok (Catalog.ofList [resource])) ∧
    (((component.requestStatus request).run around past).1 = .ok .valid ↔
      ∀ c ∈ request.credentials,
        ((component.singleStatus request.timestamp c).run around past'').1 = .ok .valid) := by
  have hsingle : ∀ c, ((component.singleStatus request.timestamp c).run around past').1 =
      ((component.singleStatus request.timestamp c).run around past'').1 :=
    fun c => singleStatus_repeatable steady _ c past' past''
  rw [requestStatus_repeatable steady request past past'',
    requestStatus_valid_iff_single steady hsome, satisfiedPoliciesIn_single_none_iff steady]
  refine ⟨?_, Iff.rfl⟩
  simp only [reorders.timestamp_eq, hsingle]
  constructor
  · exact fun h c hc => h c (reorders.credentials_perm.mem_iff.1 hc)
  · exact fun h c hc => h c (reorders.credentials_perm.mem_iff.2 hc)

/-! ## At the gate -/

attribute [local instance] Pattern.SizeLimit.unlimited

/-- Whether a text is a guest token with one attribute set and without another. -/
def isGuestWith (text present absent : String) : Bool :=
  match Token.parse text with
  | .ok token =>
    token.text = text && token.tokenType = .guest &&
      token.attribute? present = some "true" && token.attribute? absent = none
  | .error _ => false

theorem exists_guest {text present absent : String} (h : isGuestWith text present absent = true) :
    ∃ token, Token.parse text = .ok token ∧ token.text = text ∧ token.tokenType = .guest ∧
      token.attribute? present = some "true" ∧ token.attribute? absent = none := by
  unfold isGuestWith at h
  cases hparse : Token.parse text with
  | error e =>
    rw [hparse] at h
    cases h
  | ok token =>
    rw [hparse] at h
    simp only [Bool.and_eq_true, decide_eq_true_eq] at h
    obtain ⟨⟨⟨htext, hguest⟩, hpresent⟩, habsent⟩ := h
    exact ⟨token, rfl, htext, hguest, hpresent, habsent⟩

theorem member_isGuest : isGuestWith memberText "m" "x" = true := by
  decide +kernel

theorem gate_freshness : gate.configuration.authenticator.isFresh 0 0 = true := by
  decide

/-- At the gate a guest is valid alone exactly with the token that the AAM knows. -/
theorem gate_validAlone_iff (c : SecurityCredentials) {token : Token}
    (hparse : Token.parse c.token = .ok token) (htext : token.text = c.token)
    (hguest : token.tokenType = .guest) (past : History) :
    gate.validAlone gateAround past 0 c = true ↔ c.token = memberText := by
  have hstatus : ((gate.tokenStatus Catalog.empty c).run gateAround past).1 =
      .ok (if c.token = memberText then .valid else .invalidTrustChain) := by
    rw [tokenStatus, run_bind, run_ofExcept, hparse, ← htext]
    rfl
  have hproved : Authenticator.provesPossession 0 c = .ok true :=
    Authenticator.provesPossession_iff.2 ⟨token, hparse, Or.inl hguest⟩
  rw [validAlone_iff, singleStatus_valid_iff, requestStatus_valid_iff_forall gateAround_steady]
  constructor
  · rintro ⟨-, aams, haams, hall⟩
    obtain rfl : Catalog.empty = aams := Except.ok.inj haams
    obtain ⟨-, hvalid⟩ := hall c List.mem_cons_self
    rw [hstatus] at hvalid
    by_contra hother
    simp [hother] at hvalid
  · intro hmember
    refine ⟨gate_freshness, Catalog.empty, rfl, fun d hd => ?_⟩
    obtain rfl := List.mem_singleton.1 hd
    exact ⟨hproved, by rw [hstatus, if_pos hmember]⟩

/-- One token, presented twice with different proofs. -/
def presentedTwice : SecurityRequest :=
  .ofList [.ofToken memberText, { token := memberText, challenge := "again" }] 0

/-- The same in the other order. -/
def presentedTwiceBackwards : SecurityRequest :=
  .ofList [{ token := memberText, challenge := "again" }, .ofToken memberText] 0

/-- At the gate, the token passes both ways. -/
theorem gate_ways_agree :
    gateAround.Steady ∧ presentedTwiceBackwards.Reorders presentedTwice ∧
    presentedTwice.credentials ≠ [] ∧
    ((gate.requestStatus presentedTwice).run gateAround {}).1 = .ok .valid ∧
    ((gate.satisfiedPoliciesIn .byName hall presentedTwiceBackwards).run gateAround
      {}).1 = .ok (Catalog.ofList ["hall"]) := by
  have reorders : presentedTwiceBackwards.Reorders presentedTwice :=
    { timestamp_eq := rfl
      credentials_perm := by decide }
  have hsome : presentedTwice.credentials ≠ [] := by decide
  have hsingle : ∀ c ∈ presentedTwice.credentials,
      ((gate.singleStatus 0 c).run gateAround {}).1 = .ok .valid := by
    have htoken : ∀ c ∈ presentedTwice.credentials, c.token = memberText := by decide
    obtain ⟨token, hparse, htext, hguest, -⟩ := exists_guest member_isGuest
    intro c hc
    rw [← htoken c hc] at hparse htext
    exact validAlone_iff.1 ((gate_validAlone_iff c hparse htext hguest {}).2 (htoken c hc))
  obtain ⟨hopen, heach⟩ := requestStatus_valid_iff_each gate gateAround gateAround_steady
    presentedTwice presentedTwiceBackwards reorders hsome .byName "hall" {} {} {}
  have hvalid := heach.2 hsingle
  exact ⟨gateAround_steady, reorders, hsome, hvalid, hopen.1 hvalid⟩

end Component

end FederatedAccess
