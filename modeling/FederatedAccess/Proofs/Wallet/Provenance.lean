import FederatedAccess.Component
import FederatedAccess.Proofs.Honest
import FederatedAccess.Proofs.Wallet.Change

/-!
# Where cached tokens come from

A caller works with one wallet in any order it likes. After every run that started with an empty
wallet, each entry is held under the name of its own AAM, and each foreign token in it was obtained
with the home token and the certificates that the entry holds now, whatever the AAMs answered and
however often they failed. No operation touches entries of AAMs that it does not concern.
-/

namespace FederatedAccess

variable {around : Surroundings} {concerned : String → Prop} {s : Session}

/-! ## Handlers -/

namespace Handler

open WalletExchange Exchange

theorem fetchHomeToken_continues (home : HomeCredentials) :
    (fetchHomeToken home).Continues around :=
  .bind .clock fun _ => .bind .freshTokenId fun _ => .bind (.ofExcept _) fun _ => .ask _

theorem acquireCertificate_continues (aam : Aam) (username password clientId : String) :
    (acquireCertificate aam username password clientId).Continues around :=
  .bind .freshKey fun _ => .bind (.ask _) fun _ => .pure _

theorem login_performs {aam : Aam} {username clientId : String} {key : Ed25519.SecretKey}
    {certificate : Certificate} (concerns : concerned aam.id) :
    Performs around concerned s (login aam username clientId key certificate) :=
  .lift_bind (fetchHomeToken_continues _) fun _ _ _ => .single (.entered concerns rfl rfl)

theorem relogin_performs {aamId : String} (concerns : concerned aamId) :
    Performs around concerned s (relogin aamId) := by
  refine .wallet_bind ?_
  cases hheld : s.wallet.get? aamId with
  | none => exact .fail _
  | some bound =>
    refine .lift_bind (fetchHomeToken_continues _) fun token past _ => ?_
    exact .single (.refreshed concerns hheld)

section ForeignTokens

variable {homeAamId : String} {bound : BoundCredentials} {homeToken : Token}

/-- A cached foreign token is taken as it is. -/
theorem foreignToken_of_cached {aam : Aam} {token : Token}
    (hcached : bound.foreign.get? aam.id = some token) :
    (foreignToken homeAamId bound homeToken aam).run around s = (.ok (bound, token), s) := by
  rw [foreignToken, hcached]
  rfl

/-- Else its AAM is asked, and the answer is kept in the entry. -/
theorem foreignToken_of_not_cached {aam : Aam} (hcached : bound.foreign.get? aam.id = none) :
    let call := Call.foreignToken aam.address homeToken bound.home.certificate
      bound.aam.certificate
    (foreignToken homeAamId bound homeToken aam).run around s =
      match around.answer s.calls call with
      | .ok token => (.ok (bound.withForeign aam.id token, token),
          { wallet := s.wallet.put homeAamId (bound.withForeign aam.id token)
            past := s.past.called call })
      | .error e => (.error (.call e), { s with past := s.past.called call }) := by
  intro call
  rw [foreignToken, hcached]
  dsimp only
  rw [Operation.run_bind, run_lift, run_ask]
  simp only [Session.calls, call]
  cases around.answer s.past.calls (.foreignToken aam.address homeToken bound.home.certificate
    bound.aam.certificate) with
  | ok token => rfl
  | error e => rfl

theorem foreignToken_performs {aam : Aam} (concerns : concerned homeAamId)
    (held : s.wallet.get? homeAamId = some bound) (hhome : bound.home.token = some homeToken) :
    Performs around concerned s (foreignToken homeAamId bound homeToken aam) := by
  unfold foreignToken
  cases bound.foreign.get? aam.id with
  | some token => exact .pure _
  | none =>
    refine .lift_bind (.ask _) fun token past hrun => ?_
    obtain ⟨hanswer, rfl⟩ := run_ask_ok_iff.1 hrun
    exact .single (.acquired concerns held ⟨homeToken, hhome, aam.address, .of_last hanswer⟩)

/-- The entry that goes on to the next foreign token is the one in the wallet. -/
theorem foreignToken_held {aam : Aam} (held : s.wallet.get? homeAamId = some bound)
    {bound' : BoundCredentials} {token : Token} {s' : Session}
    (hrun : (foreignToken homeAamId bound homeToken aam).run around s = (.ok (bound', token), s')) :
    s'.wallet.get? homeAamId = some bound' ∧ bound'.home = bound.home := by
  cases hcached : bound.foreign.get? aam.id with
  | some cached =>
    cases (foreignToken_of_cached hcached).symm.trans hrun
    exact ⟨held, rfl⟩
  | none =>
    have hrun := (foreignToken_of_not_cached hcached).symm.trans hrun
    split at hrun
    · cases hrun
      exact ⟨Dictionary.get?_put.trans (if_pos rfl), rfl⟩
    · cases hrun

theorem foreignTokens_performs (concerns : concerned homeAamId) {found : Dictionary Token}
    {aams : List Aam} (held : s.wallet.get? homeAamId = some bound)
    (hhome : bound.home.token = some homeToken) :
    Performs around concerned s (foreignTokens homeAamId bound homeToken found aams) := by
  induction aams generalizing s bound found with
  | nil => exact .pure _
  | cons aam rest ih =>
    -- the entry is another one for each AAM, but with the home token that was held at the start
    refine .bind (foreignToken_performs concerns held hhome) fun result s' hrun => ?_
    obtain ⟨held', hhome'⟩ := foreignToken_held held hrun
    exact ih held' (hhome'.symm ▸ hhome)

end ForeignTokens

theorem loginForeign_performs {homeAamId : String} {aams : List Aam}
    (concerns : concerned homeAamId) :
    Performs around concerned s (loginForeign homeAamId aams) := by
  refine .wallet_bind ?_
  cases hheld : s.wallet.get? homeAamId with
  | none => exact .fail _
  | some bound =>
    dsimp only
    split
    · exact .fail _
    · rename_i token hhome
      exact foreignTokens_performs concerns hheld hhome

end Handler

/-! ## Components -/

namespace Component

open WalletExchange Exchange

/-- The core AAM that the component learns of goes by this name. -/
def IsCoreId (component : Component) (around : Surroundings) (calls : List Call)
    (aamId : String) : Prop :=
  ∃ aams core,
    around.answer calls (.availableAams component.configuration.localAddress) = .ok aams ∧
      aams.get? coreAamId = some core ∧ aamId = core.id

variable {component : Component}

theorem ensureLogin_performs {core : Aam} (concerns : concerned core.id) :
    Performs around concerned s (component.ensureLogin core) := by
  refine .wallet_bind ?_
  split
  · refine .lift_bind (Handler.acquireCertificate_continues _ _ _ _) fun made past _ => ?_
    exact .bind (Handler.login_performs concerns) fun _ _ _ => .pure _
  · exact .pure _

theorem coreToken_performs {core : Aam} (concerns : concerned core.id) :
    Performs around concerned s (component.coreToken core) := by
  refine .lift_bind .clock fun now past _ => .wallet_bind ?_
  dsimp only
  split
  · split
    · exact .pure _
    · exact Handler.relogin_performs concerns
  · exact Handler.relogin_performs concerns

theorem coreCredentials_performs :
    Performs around (component.IsCoreId around s.calls) s component.coreCredentials := by
  refine .lift_bind (.ask _) fun aams past hrun => ?_
  obtain ⟨hanswer, -⟩ := run_ask_ok_iff.1 hrun
  cases hcore : aams.get? coreAamId with
  | none => exact .fail _
  | some core =>
    have concerns : component.IsCoreId around s.calls core.id := ⟨aams, core, hanswer, hcore, rfl⟩
    refine .bind (ensureLogin_performs concerns) fun _ _ _ => ?_
    refine .bind (coreToken_performs concerns) fun token s' _ => .wallet_bind ?_
    cases s'.wallet.get? core.id with
    | none => exact .fail _
    | some bound => exact .pure _

theorem generateRequest_performs :
    Performs around (component.IsCoreId around s.calls) s component.generateRequest :=
  .bind coreCredentials_performs fun _ _ _ => .lift_bind .clock fun _ _ _ => .pure _

theorem generateResponse_performs :
    Performs around (component.IsCoreId around s.calls) s component.generateResponse :=
  .bind coreCredentials_performs fun _ _ _ => .lift_bind .clock fun _ _ _ => .pure _

end Component

/-! ## Runs -/

/-- What a caller can do with its wallet. -/
inductive WalletOperation
  | login (aam : Aam) (username clientId : String) (key : Ed25519.SecretKey)
    (certificate : Certificate)
  | relogin (aamId : String)
  | loginForeign (homeAamId : String) (aams : List Aam)
  | generateRequest (component : Component)
  | generateResponse (component : Component)
  | clearTokens
  | remove (aamId : String)

namespace WalletOperation

/-- The session after an operation, with a result or without one. -/
def perform (around : Surroundings) (s : Session) : WalletOperation → Session
  | login aam username clientId key certificate =>
    ((Handler.login aam username clientId key certificate).run around s).2
  | relogin aamId => ((Handler.relogin aamId).run around s).2
  | loginForeign homeAamId aams => ((Handler.loginForeign homeAamId aams).run around s).2
  | generateRequest component => (component.generateRequest.run around s).2
  | generateResponse component => (component.generateResponse.run around s).2
  | clearTokens => { s with wallet := s.wallet.clearTokens }
  | remove aamId => { s with wallet := s.wallet.remove aamId }

/-- The AAMs that an operation is about: the one it names, the core AAM that a component is told
of, or all of them. -/
def Concerns (around : Surroundings) (s : Session) : WalletOperation → String → Prop
  | login aam _ _ _ _, aamId => aamId = aam.id
  | relogin named, aamId | loginForeign named _, aamId | remove named, aamId => aamId = named
  | generateRequest component, aamId | generateResponse component, aamId =>
    component.IsCoreId around s.calls aamId
  | clearTokens, _ => True

/-- **One operation.** -/
theorem perform_changes (operation : WalletOperation) :
    Session.Changes around (operation.Concerns around s) s (operation.perform around s) := by
  cases operation with
  | login => exact Handler.login_performs rfl
  | relogin => exact Handler.relogin_performs rfl
  | loginForeign => exact Handler.loginForeign_performs rfl
  | generateRequest => exact Component.generateRequest_performs
  | generateResponse => exact Component.generateResponse_performs
  | clearTokens => exact .single (.cleared fun _ => trivial)
  | remove => exact .single (.removed rfl)

/-- The session after some operations. -/
def performAll (around : Surroundings) (s : Session) (operations : List WalletOperation) :
    Session :=
  operations.foldl (perform around) s

/-- **All operations.** -/
theorem performAll_consistent (hs : s.Consistent around) (operations : List WalletOperation) :
    (performAll around s operations).Consistent around := by
  induction operations generalizing s with
  | nil => exact hs
  | cons operation rest ih => exact ih (operation.perform_changes.consistent hs)

/-- After any operations on an empty wallet, every entry is held under the name of its AAM, which
is also its home AAM, and every foreign token in it was obtained with the home token and the
certificates in it. A next operation leaves entries alone that it does not concern. -/
theorem wallet_provenance (around : Surroundings) (past : History)
    (operations : List WalletOperation) :
    let s := performAll around { past } operations
    (∀ aamId bound, s.wallet.get? aamId = some bound →
      bound.aam.id = aamId ∧ bound.home.homeAam.id = aamId ∧
      (∀ issuer token, bound.foreign.get? issuer = some token →
        bound.Obtained around s.calls token) ∧
      (bound.home.token = none → bound.foreign = Catalog.empty)) ∧
    ∀ (operation : WalletOperation) aamId, ¬ operation.Concerns around s aamId →
      (operation.perform around s).wallet.get? aamId = s.wallet.get? aamId := by
  intro s
  have hs : s.Consistent around :=
    performAll_consistent (Session.consistent_of_empty past) operations
  constructor
  · intro aamId bound hfound
    have h := hs aamId bound hfound
    exact ⟨h.id_eq, h.homeAam_id_eq, h.obtained, h.foreign_eq_empty⟩
  · intro operation aamId hother
    exact operation.perform_changes.get?_eq hother

/-! ## A visit -/

/-- A token of the platform that is visited, signed by nobody. -/
def visitorToken : Token :=
  .written ⟨acceptedAlgorithm, none⟩ (Claims.transportable_of_extra
    (rfl : { Authenticator.heldClaims with issuer := "q", tokenType := .foreign }.extra =
      Catalog.empty)) []

/-- AAMs that give out these tokens, and answer nothing else. -/
def visitAround : Surroundings where
  answer _ call :=
    match call with
    | .homeToken .. => .ok Authenticator.heldToken
    | .foreignToken .. => .ok visitorToken
    | call => .error (.notFound call.name)
  clock _ := ⟨0, 0⟩
  freshKey _ := .uniform 9
  freshTokenId _ := ""

/-- The AAM of a platform. -/
def platformAam (id : String) : Aam where
  id := id
  address := "https://" ++ id
  certificate := {}

/-- A login at home, and a visit to another platform. -/
def visit : List WalletOperation :=
  [.login (platformAam "p") "u" "c" Authenticator.holderKey {}, .loginForeign "p" [platformAam "q"]]

/-- The visitor's token is in the wallet, was obtained with the home token, and stays there when
something else is removed. -/
theorem visit_obtains_token :
    let s := performAll visitAround {} visit
    ∃ bound, s.wallet.get? "p" = some bound ∧ bound.foreign.get? "q" = some visitorToken ∧
      bound.Obtained visitAround s.calls visitorToken ∧
      ((remove "q").perform visitAround s).wallet.get? "p" = some bound := by
  intro s
  obtain ⟨hentries, hothers⟩ := wallet_provenance visitAround {} visit
  obtain ⟨bound, hheld, hcached⟩ : ∃ bound, s.wallet.get? "p" = some bound ∧
      bound.foreign.get? "q" = some visitorToken := ⟨_, rfl, rfl⟩
  obtain ⟨-, -, hobtained, -⟩ := hentries "p" bound hheld
  have hother : ¬ (remove "q").Concerns visitAround s "p" := by
    show ¬ "p" = "q"
    decide
  exact ⟨bound, hheld, hcached, hobtained "q" visitorToken hcached,
    (hothers (remove "q") "p" hother).trans hheld⟩

end WalletOperation

end FederatedAccess
