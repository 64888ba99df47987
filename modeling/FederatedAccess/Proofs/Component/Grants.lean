import FederatedAccess.Proofs.Component.StatusCache
import FederatedAccess.Proofs.Key.Document

/-!
# Granted resources

What a component grants, put without the cache: in any surroundings by the statuses that the cache
holds in the end (`satisfiedPoliciesIn_ok`), in steady surroundings by single checks of the
credentials (`granted_iff`). The single checks know nothing of the order in which resources are
looked at, nor of other resources, so the verdict on a resource does not either.
-/

namespace FederatedAccess.Component

open Operation

variable {component : Component} {around : Surroundings} {timestamp : Int64}
  {wanted : SecurityCredentials → Prop} {start past : History} {found : Statuses}
  {credentials : List SecurityCredentials} {c : SecurityCredentials}

/-! ## Single checks -/

/-- Whether credentials are valid when they are checked alone. -/
def validAlone (component : Component) (around : Surroundings) (past : History) (timestamp : Int64)
    (c : SecurityCredentials) : Bool :=
  ((component.singleStatus timestamp c).run around past).1 matches .ok .valid

theorem validAlone_iff :
    component.validAlone around past timestamp c = true ↔
      ((component.singleStatus timestamp c).run around past).1 = .ok .valid := by
  unfold validAlone
  split
  · rename_i h
    simp [h]
  · rename_i h
    simpa using h

section Steady

variable (steady : around.Steady)

include steady

theorem singleStatus_repeatable (timestamp : Int64) (c : SecurityCredentials) :
    Exchange.Repeatable around (component.singleStatus timestamp c) :=
  .withDefault _ (requestStatus_repeatable steady _)

/-- What is kept is what a single check tells at any time. -/
theorem Checked.status_eq (checked : Checked component around timestamp start found past)
    {status : ValidationStatus} (h : (c, status) ∈ found) (past₀ : History) :
    ((component.singleStatus timestamp c).run around past₀).1 = .ok status := by
  induction checked with
  | start => exact absurd h List.not_mem_nil
  | @next found past past' d result checked hrun ih =>
    rcases List.mem_cons.1 h with hpair | hmem
    · cases hpair
      rw [singleStatus_repeatable steady timestamp c past₀ past, run_singleStatus, hrun]
    · exact ih hmem

/-- What is settled is settled as single checks tell. -/
theorem Settles.validAlone (checked : Checked component around timestamp start found past)
    (past₀ : History) {valid : Bool} (h : Settles found credentials valid) :
    (∀ c ∈ credentials, component.validAlone around past₀ timestamp c = true) ↔ valid = true := by
  cases valid with
  | true =>
    refine iff_of_true (fun c hc => ?_) rfl
    exact validAlone_iff.2 (checked.status_eq steady (h c hc) past₀)
  | false =>
    -- the invalid one keeps its status when it is checked again
    obtain ⟨c, hc, status, hstatus, hne⟩ := h
    refine iff_of_false (fun hall => ?_) (by simp)
    have hvalid := validAlone_iff.1 (hall c hc)
    rw [checked.status_eq steady hstatus past₀] at hvalid
    exact hne (Except.ok.inj hvalid)

end Steady

section

variable [Pattern.SizeLimit] {order : VisitingOrder} {policies : ResourcePolicies}
  {request : SecurityRequest} {resolved : ResolvedResources} {granted : TextSet}
  {resource : String}

/-! ## Any surroundings -/

/-- **All open resources.** Each of them is settled by the statuses kept in the end, and granted
when all credentials that open it have the status valid. -/
theorem satisfiedPoliciesIn_ok (component : Component) (order : VisitingOrder)
    (around : Surroundings) (past : History) (hresolved : request.resolve policies = .ok resolved) :
    ∃ granted found past',
      (component.satisfiedPoliciesIn order policies request).run around past =
        (.ok granted, past') ∧
      SoundCache component around request.timestamp resolved.Justifies past past' found ∧
      (∀ resource, resource ∈ granted ↔
        ∃ credentials, resolved.get? resource = some credentials ∧
          Settles found credentials true) ∧
      ∀ resource credentials, resolved.get? resource = some credentials → resource ∉ granted →
        Settles found credentials false := by
  have lists := order.lists resolved
  have hempty : SoundCache component around request.timestamp resolved.Justifies past past [] :=
    .empty past
  obtain ⟨names, found, past', hrun, sound, -, hsettled, hnames⟩ :=
    grantFrom_sound hempty lists.justifies
  have hgranted : ∀ resource, resource ∈ (Catalog.ofList names : TextSet) ↔
      ∃ credentials, resolved.get? resource = some credentials ∧
        Settles found credentials true := by
    intro resource
    rw [Catalog.mem_ofList fun _ _ h => h, hnames]
    constructor
    · rintro ⟨looked, hlooked, hvalid⟩
      obtain ⟨credentials, hget, hperm⟩ := lists.credentials_perm _ hlooked
      exact ⟨credentials, hget, hvalid.perm hperm⟩
    · rintro ⟨credentials, hget, hvalid⟩
      obtain ⟨looked, hlooked, hperm⟩ := lists.visited_of_get? hget
      exact ⟨looked, hlooked, hvalid.perm hperm.symm⟩
  refine ⟨Catalog.ofList names, found, past', ?_, sound, hgranted, ?_⟩
  · rw [satisfiedPoliciesIn, run_bind, run_ofExcept, hresolved]
    simp only [mapError_ok, grant, run_bind, hrun]
    rfl
  · intro resource credentials hget hdenied
    obtain ⟨looked, hlooked, hperm⟩ := lists.visited_of_get? hget
    obtain ⟨valid, hvalid⟩ := hsettled _ hlooked
    cases valid with
    | true => exact absurd ((hgranted resource).2 ⟨_, hget, hvalid.perm hperm⟩) hdenied
    | false => exact hvalid.perm hperm

theorem exists_granted (component : Component) (order : VisitingOrder) (around : Surroundings)
    (past : History) (hresolved : request.resolve policies = .ok resolved) :
    ∃ granted, ((component.satisfiedPoliciesIn order policies request).run around past).1 =
      .ok granted := by
  obtain ⟨granted, _, _, hrun, -⟩ := satisfiedPoliciesIn_ok component order around past hresolved
  exact ⟨granted, congrArg Prod.fst hrun⟩

/-- A request that cannot be resolved opens nothing, and nothing is checked. -/
theorem satisfiedPoliciesIn_error (component : Component) (order : VisitingOrder)
    (around : Surroundings) (past : History) {e : ResolutionError}
    (hresolved : request.resolve policies = .error e) :
    (component.satisfiedPoliciesIn order policies request).run around past =
      (.error (.resolution e), past) := by
  rw [satisfiedPoliciesIn, run_bind, run_ofExcept, hresolved]
  rfl

/-! ## Steady surroundings -/

/-- What a run says about one resource. -/
def verdict (component : Component) (order : VisitingOrder) (policies : ResourcePolicies)
    (request : SecurityRequest) (resource : String) (around : Surroundings) (past : History) :
    Except HandlerError Bool :=
  ((component.satisfiedPoliciesIn order policies request).run around past).1.map
    fun granted => granted.contains resource

section Steady

variable (steady : around.Steady)

include steady

/-- **Granted by single checks.** A resource is granted exactly when it is open and all credentials
that open it are valid alone. -/
theorem granted_iff (hresolved : request.resolve policies = .ok resolved)
    (hgranted : ((component.satisfiedPoliciesIn order policies request).run around past).1 =
      .ok granted) (past₀ : History) :
    resource ∈ granted ↔
      ∃ credentials, resolved.get? resource = some credentials ∧
        ∀ c ∈ credentials, component.validAlone around past₀ request.timestamp c = true := by
  obtain ⟨granted', found, past', hrun, sound, hyes, hno⟩ :=
    satisfiedPoliciesIn_ok component order around past hresolved
  obtain rfl : granted' = granted := by
    rw [hrun] at hgranted
    exact Except.ok.inj hgranted
  constructor
  · intro hmem
    obtain ⟨credentials, hget, hsettled⟩ := (hyes resource).1 hmem
    exact ⟨credentials, hget, (hsettled.validAlone steady sound.checked past₀).2 rfl⟩
  · rintro ⟨credentials, hget, hvalid⟩
    by_contra hdenied
    have hsettled := hno resource credentials hget hdenied
    exact absurd ((hsettled.validAlone steady sound.checked past₀).1 hvalid) (by simp)

/-- **Granted by its policy.** The same, by what the policy of the resource demands. -/
theorem granted_iff_opens (hresolved : request.resolve policies = .ok resolved)
    (hgranted : ((component.satisfiedPoliciesIn order policies request).run around past).1 =
      .ok granted) (past₀ : History) :
    resource ∈ granted ↔
      ∃ policy, policies.get? resource = some policy ∧
        Resolution.Opens request
          (fun c => component.validAlone around past₀ request.timestamp c = true) policy := by
  rw [granted_iff steady hresolved hgranted past₀, Resolution.exists_get?_iff_opens hresolved]

/-! ### A single resource -/

/-- Where there is a single resource, no other is granted. -/
theorem mem_granted_single_iff {policy : Option Policy} {name : String}
    (hresolved : request.resolve (Dictionary.single resource policy) = .ok resolved)
    (hgranted : ((component.satisfiedPoliciesIn order (Dictionary.single resource policy)
      request).run around past).1 = .ok granted) (past₀ : History) :
    name ∈ granted ↔ name = resource ∧
      Resolution.Opens request
        (fun c => component.validAlone around past₀ request.timestamp c = true) policy := by
  rw [granted_iff_opens steady hresolved hgranted past₀]
  constructor
  · rintro ⟨found, hfound, hopens⟩
    obtain ⟨rfl, rfl⟩ := Dictionary.get?_single_iff.1 hfound
    exact ⟨rfl, hopens⟩
  · rintro ⟨rfl, hopens⟩
    exact ⟨policy, Dictionary.get?_single_iff.2 ⟨rfl, rfl⟩, hopens⟩

/-- A request that opens a single resource is granted this resource. -/
theorem satisfiedPoliciesIn_single_of_opens {policy : Option Policy}
    {presented : List (Token × SecurityCredentials)}
    (hpresented : Resolution.presented request = .ok presented)
    (hopens : Resolution.Opens request
      (fun c => component.validAlone around past request.timestamp c = true) policy) :
    ((component.satisfiedPoliciesIn order (Dictionary.single resource policy) request).run around
      past).1 = .ok (Catalog.ofList [resource]) := by
  obtain ⟨resolved, hresolved⟩ :=
    Resolution.exists_resolve (Dictionary.single resource policy) hpresented
  obtain ⟨granted, hgranted⟩ := exists_granted component order around past hresolved
  rw [hgranted]
  refine congrArg Except.ok (Catalog.ext_mem fun name => ?_)
  rw [mem_granted_single_iff steady hresolved hgranted past, Catalog.mem_ofList fun _ _ h => h,
    List.mem_singleton]
  exact and_iff_left hopens

/-- A request that does not open it is granted nothing. -/
theorem satisfiedPoliciesIn_single_of_not_opens {policy : Option Policy}
    {presented : List (Token × SecurityCredentials)}
    (hpresented : Resolution.presented request = .ok presented)
    (hcloses : ¬ Resolution.Opens request
      (fun c => component.validAlone around past request.timestamp c = true) policy) :
    ((component.satisfiedPoliciesIn order (Dictionary.single resource policy) request).run around
      past).1 = .ok Catalog.empty := by
  obtain ⟨resolved, hresolved⟩ :=
    Resolution.exists_resolve (Dictionary.single resource policy) hpresented
  obtain ⟨granted, hgranted⟩ := exists_granted component order around past hresolved
  rw [hgranted]
  refine congrArg Except.ok (Catalog.ext_mem fun name => ?_)
  rw [mem_granted_single_iff steady hresolved hgranted past]
  exact iff_of_false (fun h => hcloses h.2) (Catalog.not_mem_empty name)

/-! ### Orders and other policies -/

/-- The result is the same in every order and at every time. -/
theorem satisfiedPoliciesIn_result_eq (component : Component) (order order' : VisitingOrder)
    (policies : ResourcePolicies) (request : SecurityRequest) (past past' : History) :
    ((component.satisfiedPoliciesIn order policies request).run around past).1 =
      ((component.satisfiedPoliciesIn order' policies request).run around past').1 := by
  cases hresolved : request.resolve policies with
  | error e =>
    rw [satisfiedPoliciesIn_error component order around past hresolved,
      satisfiedPoliciesIn_error component order' around past' hresolved]
  | ok resolved =>
    obtain ⟨granted, hgranted⟩ := exists_granted component order around past hresolved
    obtain ⟨granted', hgranted'⟩ := exists_granted component order' around past' hresolved
    rw [hgranted, hgranted']
    refine congrArg Except.ok (Catalog.ext_mem fun resource => ?_)
    rw [granted_iff steady hresolved hgranted past, granted_iff steady hresolved hgranted' past]

/-- What policies there are for other resources makes no difference to a resource. -/
theorem verdict_congr (component : Component) (order : VisitingOrder) (request : SecurityRequest)
    {policies policies' : ResourcePolicies} (past : History)
    (hpolicy : policies.get? resource = policies'.get? resource) :
    component.verdict order policies request resource around past =
      component.verdict order policies' request resource around past := by
  unfold verdict
  cases hresolved : request.resolve policies with
  | error e =>
    have hresolved' : request.resolve policies' = .error e :=
      Resolution.resolve_error_iff.2 (Resolution.resolve_error_iff.1 hresolved)
    rw [satisfiedPoliciesIn_error component order around past hresolved,
      satisfiedPoliciesIn_error component order around past hresolved']
  | ok resolved =>
    obtain ⟨found, hfound, -⟩ := Resolution.resolve_ok_iff.1 hresolved
    obtain ⟨resolved', hresolved'⟩ := Resolution.exists_resolve policies' hfound
    obtain ⟨granted, hgranted⟩ := exists_granted component order around past hresolved
    obtain ⟨granted', hgranted'⟩ := exists_granted component order around past hresolved'
    rw [hgranted, hgranted']
    refine congrArg Except.ok (Bool.eq_iff_iff.2 ?_)
    rw [TextSet.contains_iff, TextSet.contains_iff,
      granted_iff_opens steady hresolved hgranted past,
      granted_iff_opens steady hresolved' hgranted' past, hpolicy]

end Steady

/-! ## Soundness -/

/-- **The cache is sound.** In any surroundings, resources that can be resolved end with a verdict.
The checks are all that happens, none is for credentials that were checked before or that open
nothing. A resource is granted exactly when it is open and all credentials that open it have the
status valid in the end; otherwise one of them has another status. In steady surroundings, neither
the order, nor the time, nor the policies of other resources make a difference. -/
theorem satisfiedPoliciesIn_sound (component : Component) (policies : ResourcePolicies)
    (request : SecurityRequest) (around : Surroundings) :
    (∀ (order : VisitingOrder) (past : History),
      match request.resolve policies with
      | .error e =>
        (component.satisfiedPoliciesIn order policies request).run around past =
          (.error (.resolution e), past)
      | .ok resolved =>
        ∃ granted found past',
          (component.satisfiedPoliciesIn order policies request).run around past =
            (.ok granted, past') ∧
          SoundCache component around request.timestamp resolved.Justifies past past' found ∧
          (∀ resource, resource ∈ granted ↔
            ∃ credentials, resolved.get? resource = some credentials ∧
              ∀ c ∈ credentials, (c, .valid) ∈ found) ∧
          ∀ resource credentials, resolved.get? resource = some credentials →
            resource ∉ granted →
              ∃ c ∈ credentials, ∃ status, (c, status) ∈ found ∧ status ≠ .valid) ∧
    (around.Steady → ∀ (order order' : VisitingOrder) (past past' : History),
      ((component.satisfiedPoliciesIn order policies request).run around past).1 =
        ((component.satisfiedPoliciesIn order' policies request).run around past').1 ∧
      ∀ (policies' : ResourcePolicies) (resource : String),
        policies.get? resource = policies'.get? resource →
          component.verdict order policies request resource around past =
            component.verdict order' policies' request resource around past') := by
  constructor
  · intro order past
    cases hresolved : request.resolve policies with
    | error e => exact satisfiedPoliciesIn_error component order around past hresolved
    | ok resolved => exact satisfiedPoliciesIn_ok component order around past hresolved
  · intro steady order order' past past'
    refine ⟨satisfiedPoliciesIn_result_eq steady component order order' policies request past past',
      fun policies' resource hpolicy => ?_⟩
    rw [verdict_congr steady component order request past hpolicy, verdict, verdict,
      satisfiedPoliciesIn_result_eq steady component order order' policies' request past past']

end

/-! ## A gate

A component that has every token validated by its own AAM, which knows a single valid one. -/

attribute [local instance] Pattern.SizeLimit.unlimited

def gate : Component where
  handler := ⟨"https://core"⟩
  configuration := { componentId := "gate@platform", alwaysLocal := true }
  named := by decide

/-- The compact text of a guest token with the attribute `m`. -/
def memberText : String :=
  "eyJhbGciOiJuIn0.eyJleHAiOjEsImlwayI6IiIsImlzcyI6InAiLCJzdWIiOiJnIiwidHR5cCI6IkdVRVNUIiwi" ++
    "U1lNQklPVEVfbSI6InRydWUifQ."

/-- The compact text of a guest token with the attribute `x`. -/
def strangerText : String :=
  "eyJhbGciOiJuIn0.eyJleHAiOjEsImlwayI6IiIsImlzcyI6InAiLCJzdWIiOiJmIiwidHR5cCI6IkdVRVNUIiwi" ++
    "U1lNQklPVEVfeCI6InRydWUifQ."

/-- An AAM that finds the first of these valid, and clocks that stand still. -/
def gateAround : Surroundings where
  answer _ call :=
    match call with
    | .availableAams _ => .ok Catalog.empty
    | .validateCredentials _ token _ =>
      .ok (if token = memberText then .valid else .invalidTrustChain)
    | _ => .error (.notFound "")
  clock _ := ⟨0, 0⟩
  freshKey _ := .uniform 9
  freshTokenId _ := ""

theorem gateAround_steady : gateAround.Steady where
  answer_eq _ _ _ := rfl
  clock_eq _ _ := rfl

def bothGuests : SecurityRequest :=
  .ofList [.ofToken memberText, .ofToken strangerText] 0

/-- A hall that is open to everyone. -/
def hall : ResourcePolicies :=
  Dictionary.single "hall" none

/-- The hall, and a yard that is open to everyone. -/
def hallAndYard : ResourcePolicies :=
  Dictionary.put hall "yard" none

/-- At the gate, two orders come to the same, and the yard changes nothing for the hall. -/
theorem gate_order_irrelevant :
    gateAround.Steady ∧
    ((gate.satisfiedPoliciesIn .byName hallAndYard bothGuests).run gateAround {}).1 =
      ((gate.satisfiedPoliciesIn .backwards hallAndYard bothGuests).run gateAround
        (History.read {})).1 ∧
    hallAndYard.get? "hall" = hall.get? "hall" ∧
    gate.verdict .byName hallAndYard bothGuests "hall" gateAround {} =
      gate.verdict .backwards hall bothGuests "hall" gateAround (History.read {}) := by
  obtain ⟨hresult, hverdict⟩ := (satisfiedPoliciesIn_sound gate hallAndYard bothGuests
    gateAround).2 gateAround_steady .byName .backwards {} (History.read {})
  have hsame : hallAndYard.get? "hall" = hall.get? "hall" := by rfl
  exact ⟨gateAround_steady, hresult, hsame, hverdict hall "hall" hsame⟩

end FederatedAccess.Component
