import FederatedAccess.Proofs.Component.Grants
import FederatedAccess.Proofs.Component.TrustChain
import FederatedAccess.Proofs.Token.RoundTrip

/-!
# The calls that a check makes

Whom a component asks about a received request, and what it tells them. Nobody learns anything of a
request whose proofs fail. Otherwise the local AAM is asked which AAMs there are, and in remote
validation one question about each of the credentials follows, in their order, up to the first that
is not answered with valid (`AsksInTurn`). Each question goes to the listed issuer of the token or,
where there is none, to the local AAM, and shows nothing but the token and its own certificates.
-/

namespace FederatedAccess

namespace Component

open Operation

/-! ## Questions -/

/-- What the AAM at an address is asked about presented credentials. -/
@[reducible] def question (address : SecurityCredentials → String) (c : SecurityCredentials) :
    Call :=
  .validateCredentials (address c) (Text.trim c.token)
    { client := c.clientCertificate
      signing := c.signingCertificate
      foreign := c.foreignCertificate }

/-- The answer to the question about the credentials at a place, when it follows the questions about
all credentials before them. -/
def answerAt (around : Surroundings) (before : List Call) (address : SecurityCredentials → String)
    (credentials : List SecurityCredentials) (place : Nat) (h : place < credentials.length) :
    Except CallError ValidationStatus :=
  around.answer (before ++ (credentials.take place).map (question address))
    (question address credentials[place])

/-- A check that starts after some calls asks about the credentials one after the other, as many as
`asked`: all of them, or up to the first that is not answered with valid. -/
structure AsksInTurn (around : Surroundings) (before : List Call)
    (address : SecurityCredentials → String) (credentials : List SecurityCredentials)
    (run : Except HandlerError ValidationStatus × History) (asked : Nat) : Prop where
  /-- About no credentials is asked twice. -/
  le_length : asked ≤ credentials.length
  /-- Nothing else is called. -/
  calls_eq : run.2.calls = before ++ (credentials.take asked).map (question address)
  /-- There is a next question only after the answer valid. -/
  valid_of_lt : ∀ place (h : place < credentials.length), place + 1 < asked →
    answerAt around before address credentials place h = .ok .valid
  /-- Questions are left out only after another answer, or none. -/
  not_valid_of_lt : asked < credentials.length →
    ∃ place, ∃ h : place < credentials.length, asked = place + 1 ∧
      answerAt around before address credentials place h ≠ .ok .valid
  /-- The credentials are valid when all questions were asked and answered with valid. -/
  valid_iff : run.1 = .ok .valid ↔ asked = credentials.length ∧
    ∀ place h, answerAt around before address credentials place h = .ok .valid

/-- The address of the AAM that is listed under the issuer of the presented token, or that of the
local AAM. -/
def issuerAddress (component : Component) (aams : Dictionary Aam) (c : SecurityCredentials) :
    String :=
  match Token.parse c.token with
  | .ok token =>
    match aams.get? token.issuer with
    | some aam => aam.address
    | none => component.configuration.localAddress
  | .error _ => component.configuration.localAddress

variable {component : Component} {around : Surroundings} {past : History} {aams : Dictionary Aam}
  {address : SecurityCredentials → String} {before : List Call}
  {c : SecurityCredentials} {credentials : List SecurityCredentials} {request : SecurityRequest}

/-- Where no AAM is listed, the local one is asked. -/
theorem issuerAddress_empty :
    component.issuerAddress Catalog.empty = fun _ => component.configuration.localAddress := by
  funext c
  unfold issuerAddress
  split <;> rfl

/-! ## One token -/

/-- Remotely, one question is asked about a token, and its answer is the status. -/
theorem tokenStatus_remote (hmode : component.configuration.validationMode = .remote)
    (aams : Dictionary Aam) (around : Surroundings) (past : History) {token : Token}
    (hparse : Token.parse c.token = .ok token) :
    (component.tokenStatus aams c).run around past =
      ((around.answer past.calls (question (component.issuerAddress aams) c)).mapError .call,
        past.called (question (component.issuerAddress aams) c)) := by
  have haddress : (component.validatingAam aams token).address =
      component.issuerAddress aams c := by
    simp only [validatingAam, issuerAddress, hparse]
    cases aams.get? token.issuer <;> rfl
  have hrun : (component.tokenStatus aams c).run around past =
      ((around.answer past.calls (.validateCredentials (component.validatingAam aams token).address
        token.text (.ofCredentials c))).mapError .call,
        past.called (.validateCredentials (component.validatingAam aams token).address token.text
          (.ofCredentials c))) := by
    rw [tokenStatus, run_bind, run_ofExcept, hparse, hmode]
    rfl
  rw [hrun, haddress, ← Token.parse_ok_iff.1 hparse, CredentialCertificates.ofCredentials]

/-- Offline, nobody is asked about a token. -/
theorem calls_tokenStatus_offline (hmode : component.configuration.validationMode = .offline) :
    ((component.tokenStatus aams c).run around past).2.calls = past.calls := by
  rw [tokenStatus_offline hmode]
  cases Token.parse c.token with
  | ok token => rfl
  | error e => rfl

/-! ## All tokens -/

theorem answerAt_zero {rest : List SecurityCredentials} (h : 0 < (c :: rest).length) :
    answerAt around before address (c :: rest) 0 h =
      around.answer before (question address c) := by
  unfold answerAt
  rw [List.take_zero, List.map_nil, List.append_nil]
  rfl

/-- With one token more in front, the others are asked about one call later. -/
theorem answerAt_cons {rest : List SecurityCredentials} {place : Nat}
    (h : place + 1 < (c :: rest).length) :
    answerAt around before address (c :: rest) (place + 1) h =
      answerAt around (before ++ [question address c]) address rest place
        (Nat.lt_of_succ_lt_succ h) := by
  unfold answerAt
  rw [List.take_succ_cons, List.map_cons, List.append_assoc]
  rfl

/-- A question that is answered with valid, and those after it. -/
theorem AsksInTurn.cons {rest : List SecurityCredentials}
    {run : Except HandlerError ValidationStatus × History} {asked : Nat}
    (hvalid : around.answer before (question address c) = .ok .valid)
    (turns : AsksInTurn around (before ++ [question address c]) address rest run asked) :
    AsksInTurn around before address (c :: rest) run (asked + 1) := by
  have hfirst : ∀ h, answerAt around before address (c :: rest) 0 h = .ok .valid := by
    intro h
    rw [answerAt_zero, hvalid]
  constructor
  · exact Nat.succ_le_succ turns.le_length
  · rw [turns.calls_eq, List.take_succ_cons, List.map_cons, List.append_assoc]
    rfl
  · intro place h hlt
    cases place with
    | zero => exact hfirst h
    | succ place =>
      rw [answerAt_cons]
      exact turns.valid_of_lt place _ (Nat.lt_of_succ_lt_succ hlt)
  · intro hlt
    obtain ⟨place, h, hasked, hanswer⟩ := turns.not_valid_of_lt (Nat.lt_of_succ_lt_succ hlt)
    refine ⟨place + 1, Nat.succ_lt_succ h, congrArg Nat.succ hasked, ?_⟩
    rwa [answerAt_cons]
  · rw [turns.valid_iff]
    refine and_congr Nat.succ_inj.symm ⟨fun hall place h => ?_, fun hall place h => ?_⟩
    · cases place with
      | zero => exact hfirst h
      | succ place =>
        rw [answerAt_cons]
        exact hall place _
    · have hnext := hall (place + 1) (Nat.succ_lt_succ h)
      rwa [answerAt_cons] at hnext

/-- A question that is not answered with valid is the last one. -/
theorem AsksInTurn.stop {rest : List SecurityCredentials}
    {run : Except HandlerError ValidationStatus × History}
    (hanswer : around.answer before (question address c) ≠ .ok .valid)
    (hcalls : run.2.calls = before ++ [question address c]) (hrun : run.1 ≠ .ok .valid) :
    AsksInTurn around before address (c :: rest) run 1 := by
  have hfirst : ∀ h, answerAt around before address (c :: rest) 0 h ≠ .ok .valid := by
    intro h
    rw [answerAt_zero]
    exact hanswer
  constructor
  · exact Nat.succ_le_succ (Nat.zero_le _)
  · exact hcalls
  · intro place h hlt
    omega
  · intro hlt
    exact ⟨0, Nat.zero_lt_succ _, rfl, hfirst _⟩
  · refine iff_of_false hrun ?_
    rintro ⟨-, hall⟩
    exact hfirst (Nat.zero_lt_succ _) (hall 0 _)

/-- **Remote validation.** Where all texts are tokens, the component asks about them in turn. -/
theorem firstStatus_asksInTurn (hmode : component.configuration.validationMode = .remote)
    (aams : Dictionary Aam) (past : History)
    (hparse : ∀ c ∈ credentials, ∃ token, Token.parse c.token = .ok token) :
    ∃ asked, AsksInTurn around past.calls (component.issuerAddress aams) credentials
      ((component.firstStatus aams credentials).run around past) asked := by
  induction credentials generalizing past with
  | nil =>
    refine ⟨0, Nat.le_refl 0, ?_, ?_, ?_, ?_⟩
    · rw [firstStatus, run_pure, List.take_nil, List.map_nil, List.append_nil]
    · intro place h
      exact absurd h (Nat.not_lt_zero _)
    · intro hlt
      exact absurd hlt (Nat.lt_irrefl 0)
    · refine iff_of_true rfl ⟨rfl, fun place h => absurd h (Nat.not_lt_zero _)⟩
  | cons c rest ih =>
    obtain ⟨⟨token, htoken⟩, hrest⟩ := List.forall_mem_cons.1 hparse
    have hstatus := tokenStatus_remote hmode aams around past htoken
    by_cases hvalid : around.answer past.calls (question (component.issuerAddress aams) c) =
        .ok .valid
    · rw [hvalid] at hstatus
      obtain ⟨asked, turns⟩ := ih (past.called (question (component.issuerAddress aams) c)) hrest
      refine ⟨asked + 1, AsksInTurn.cons hvalid ?_⟩
      rw [firstStatus_cons_of_valid hstatus]
      exact turns
    · have hstops : ((component.tokenStatus aams c).run around past).1 ≠ .ok .valid := by
        rw [hstatus, ne_eq, mapError_ok_iff]
        exact hvalid
      refine ⟨1, AsksInTurn.stop hvalid ?_ ?_⟩
      · rw [firstStatus_cons_of_not_valid hstops, hstatus]
        rfl
      · rw [firstStatus_cons_of_not_valid hstops]
        exact hstops

/-- Offline, nobody is asked about any token. -/
theorem calls_firstStatus_offline (hmode : component.configuration.validationMode = .offline) :
    ((component.firstStatus aams credentials).run around past).2.calls = past.calls := by
  induction credentials generalizing past with
  | nil => rfl
  | cons c rest ih =>
    have hcalls : ((component.tokenStatus aams c).run around past).2.calls = past.calls :=
      calls_tokenStatus_offline hmode
    rcases hrun : (component.tokenStatus aams c).run around past with ⟨result, past'⟩
    rw [hrun] at hcalls
    by_cases hvalid : result = .ok .valid
    · subst hvalid
      rw [firstStatus_cons_of_valid hrun]
      exact ih.trans hcalls
    · have hstops : ((component.tokenStatus aams c).run around past).1 ≠ .ok .valid := by
        rw [hrun]
        exact hvalid
      rw [firstStatus_cons_of_not_valid hstops, hrun]
      exact hcalls

/-! ## Requests -/

/-- Without proofs there is no status valid, and nothing is called. -/
theorem requestStatus_of_not_proved
    (h : component.configuration.authenticator.verifyRequest request (around.clock past).millis ≠
      .ok true) :
    ((component.requestStatus request).run around past).2.calls = past.calls ∧
      ((component.requestStatus request).run around past).1 ≠ .ok .valid := by
  rw [requestStatus, run_bind_ok (Exchange.run_clock around past)]
  rcases hproved : component.configuration.authenticator.verifyRequest request
    (around.clock past).millis with e | proved
  · refine ⟨rfl, fun hvalid => ?_⟩
    cases hvalid
  · cases proved with
    | true => exact absurd hproved h
    | false =>
      refine ⟨rfl, fun hvalid => ?_⟩
      cases hvalid

theorem requestStatus_of_proved
    (h : component.configuration.authenticator.verifyRequest request (around.clock past).millis =
      .ok true) :
    (component.requestStatus request).run around past =
      (component.knownAams >>= fun aams =>
        component.firstStatus aams request.credentials).run around past.read := by
  rw [requestStatus, run_bind_ok (Exchange.run_clock around past), h]
  exact run_bind_ok (run_ofExcept _ _ _)

/-- Credentials that prove possession hold tokens. -/
theorem exists_token_of_proved
    (h : component.configuration.authenticator.verifyRequest request (around.clock past).millis =
      .ok true) :
    ∀ c ∈ request.credentials, ∃ token, Token.parse c.token = .ok token := by
  intro c hc
  have hproves := (Authenticator.verifyRequest_iff.1 h).2 c hc
  obtain ⟨token, hparse, -⟩ := Authenticator.provesPossession_iff.1 hproves
  exact ⟨token, hparse⟩

/-- In remote validation by the local AAM alone, nobody is asked which AAMs there are. -/
theorem knownAams_alwaysLocal (hmode : component.configuration.validationMode = .remote)
    (hlocal : component.configuration.alwaysLocal = true) :
    component.knownAams = pure Catalog.empty := by
  simp [knownAams, hmode, hlocal]

theorem knownAams_listed (hlisted : component.configuration.alwaysLocal = false) :
    component.knownAams = Exchange.ask (.availableAams component.configuration.localAddress) := by
  simp [knownAams, hlisted, Handler.availableAamsVia, localAam]

/-- **Whom a component asks.** The whole list of calls that the check of a request makes, whatever
the AAMs answer and in whatever order the credentials come.

Without proofs there are none. With them, in remote validation the local AAM is asked which AAMs
there are, unless everything is left to it anyway; if it does not answer, that is all. Then the
credentials are asked about in turn, at the AAM of their issuer or at the local one. Offline, the
only call is the one to the local AAM. -/
theorem requestStatus_calls (component : Component) (request : SecurityRequest)
    (around : Surroundings) (past : History) :
    let run := (component.requestStatus request).run around past
    let proved := component.configuration.authenticator.verifyRequest request
      (around.clock past).millis
    let listing := Call.availableAams component.configuration.localAddress
    (proved ≠ .ok true → run.2.calls = past.calls ∧ run.1 ≠ .ok .valid) ∧
    (proved = .ok true → component.configuration.validationMode = .remote →
      (component.configuration.alwaysLocal = true →
        ∃ asked, AsksInTurn around past.calls (fun _ => component.configuration.localAddress)
          request.credentials run asked) ∧
      (component.configuration.alwaysLocal = false →
        (∀ e, around.answer past.calls (.availableAams component.configuration.localAddress) =
            .error e →
          run.2.calls = past.calls ++ [listing] ∧ run.1 = .error (.call e)) ∧
        ∀ aams, around.answer past.calls (.availableAams component.configuration.localAddress) =
            .ok aams →
          ∃ asked, AsksInTurn around (past.calls ++ [listing]) (component.issuerAddress aams)
            request.credentials run asked)) ∧
    (proved = .ok true → component.configuration.validationMode = .offline →
      run.2.calls = past.calls ++ [listing]) := by
  intro run proved listing
  refine ⟨requestStatus_of_not_proved, fun hproved hmode => ⟨fun hlocal => ?_, fun hlisted => ?_⟩,
    fun hproved hmode => ?_⟩
  · have hrun : run = (component.firstStatus Catalog.empty request.credentials).run around
        past.read := by
      rw [← pure_bind Catalog.empty fun aams => component.firstStatus aams request.credentials,
        ← knownAams_alwaysLocal hmode hlocal]
      exact requestStatus_of_proved hproved
    rw [hrun, ← issuerAddress_empty]
    exact firstStatus_asksInTurn hmode Catalog.empty past.read (exists_token_of_proved hproved)
  · have hrun : run = (Exchange.ask (.availableAams component.configuration.localAddress) >>=
        fun aams => component.firstStatus aams request.credentials).run around past.read := by
      rw [← knownAams_listed hlisted]
      exact requestStatus_of_proved hproved
    rw [run_bind, Exchange.run_ask] at hrun
    constructor
    · intro e hanswer
      rw [hrun, History.calls_read, hanswer]
      exact ⟨rfl, rfl⟩
    · intro aams hanswer
      rw [hrun, History.calls_read, hanswer]
      exact firstStatus_asksInTurn hmode aams (past.read.called listing)
        (exists_token_of_proved hproved)
  · have hrun : run = (Exchange.ask (.availableAams component.configuration.localAddress) >>=
        fun aams => component.firstStatus aams request.credentials).run around past.read := by
      rw [← knownAams_offline hmode]
      exact requestStatus_of_proved hproved
    rw [run_bind, Exchange.run_ask] at hrun
    rw [hrun]
    rcases around.answer past.read.calls (.availableAams component.configuration.localAddress) with
      e | aams
    · rfl
    · exact calls_firstStatus_offline hmode

/-! ## Two guests of one platform -/

/-- The gate, but with every token validated by the AAM that issued it. -/
def issuerGate : Component where
  handler := ⟨"https://core"⟩
  configuration := { componentId := "gate@platform", localAddress := "https://local" }
  named := by decide

/-- The one AAM that there is, the issuer of the tokens of both guests. -/
def guestAams : Dictionary Aam :=
  Dictionary.put Catalog.empty "p" { id := "p", address := "https://p", certificate := {} }

/-- The AAMs answer as at the gate, and tell which there are. -/
def issuerGateAround : Surroundings :=
  { gateAround with
    answer := fun calls call =>
      match call with
      | .availableAams _ => .ok guestAams
      | call => gateAround.answer calls call }

theorem bothGuests_proved :
    issuerGate.configuration.authenticator.verifyRequest bothGuests 0 = .ok true := by
  decide +kernel

theorem bothGuests_questions :
    bothGuests.credentials.map (question (issuerGate.issuerAddress guestAams)) =
      [.validateCredentials "https://p" memberText {},
        .validateCredentials "https://p" strangerText {}] := by
  decide +kernel

/-- The first guest is found valid and the second one is not. -/
theorem bothGuests_answers (before : List Call) (place : Nat) (h : place < 2) :
    answerAt issuerGateAround before (issuerGate.issuerAddress guestAams) bothGuests.credentials
      place h = .ok (if place = 0 then .valid else .invalidTrustChain) := by
  have htexts : ∀ place (h : place < bothGuests.credentials.length),
      (Text.trim bothGuests.credentials[place].token = memberText ↔ place = 0) := by
    decide +kernel
  show Except.ok (if Text.trim bothGuests.credentials[place].token = memberText then
    ValidationStatus.valid else .invalidTrustChain) = _
  simp only [htexts place h]

/-- The issuer is asked about both guests, and the second one is refused. -/
theorem issuer_asked_about_guests :
    issuerGate.configuration.authenticator.verifyRequest bothGuests 0 = .ok true ∧
      ((issuerGate.requestStatus bothGuests).run issuerGateAround {}).2.calls =
        [.availableAams "https://local", .validateCredentials "https://p" memberText {},
          .validateCredentials "https://p" strangerText {}] ∧
      ((issuerGate.requestStatus bothGuests).run issuerGateAround {}).1 ≠ .ok .valid := by
  obtain ⟨-, hremote, -⟩ := requestStatus_calls issuerGate bothGuests issuerGateAround {}
  obtain ⟨-, hlisted⟩ := hremote bothGuests_proved rfl
  obtain ⟨asked, turns⟩ := (hlisted rfl).2 guestAams rfl
  have hasked : asked = 2 := by
    rcases Nat.lt_or_eq_of_le turns.le_length with hlt | heq
    · obtain ⟨place, h, rfl, hanswer⟩ := turns.not_valid_of_lt hlt
      have hplace : place = 0 := by
        have htwo : place + 1 < 2 := hlt
        omega
      rw [bothGuests_answers _ place h, if_pos hplace] at hanswer
      exact absurd rfl hanswer
    · exact heq
  refine ⟨bothGuests_proved, ?_, ?_⟩
  · rw [turns.calls_eq, hasked, List.take_of_length_le (Nat.le_refl 2), bothGuests_questions]
    rfl
  · intro hvalid
    have hsecond := (turns.valid_iff.1 hvalid).2 1 (Nat.lt_succ_self 1)
    rw [bothGuests_answers] at hsecond
    cases hsecond

end Component

end FederatedAccess
