import FederatedAccess.Component
import FederatedAccess.Proofs.Exchange
import FederatedAccess.Proofs.Catalog
import FederatedAccess.Proofs.Token.Issuing
import FederatedAccess.Proofs.Token.Validity

/-!
# The life of the core credentials

Before a component makes a request or a response, it sees to its credentials towards the core AAM.
It asks the local AAM which AAMs there are, logs in if the wallet holds nothing towards the core AAM,
and asks for another home token unless the one it holds is valid. Each of these steps may fail, and
then it is the last one. `Component.Course` lists the ends that such a run can come to, each with the
calls that were made and the wallet that is left; that there are no others is proved step by step
(`coreToken_renews`, `coreCredentials_follows`). Everything else is read off the ends.
-/

namespace FederatedAccess

/-! ## Asking for home tokens -/

/-- The login request of an account, as it is made after some history. -/
def HomeCredentials.LoginIs (home : HomeCredentials) (around : Surroundings) (past : History)
    (request : LoginRequest) : Prop :=
  LoginRequest.build home.username home.clientId home.key (around.clock past).seconds
    (around.freshTokenId past.calls) = .ok request

/-- A login request can always be made: its validity is short enough. -/
theorem HomeCredentials.exists_login (home : HomeCredentials) (around : Surroundings)
    (past : History) : ∃ request, home.LoginIs around past request := by
  have hfits : ¬ Time.greatest < LoginRequest.validity.seconds.toNat := by decide
  cases hissue : TokenIssuer.issueAt ⟨home.username, home.key⟩
    { subject := home.clientId, tokenType := .null, validity := LoginRequest.validity }
    (around.clock past).seconds (around.freshTokenId past.calls) with
  | ok text =>
    refine ⟨⟨text⟩, ?_⟩
    simp only [LoginIs, LoginRequest.build, hissue]
    rfl
  | error e => exact absurd (TokenIssuer.issueAt_error_iff.1 hissue).1 hfits

namespace Handler

open Exchange WalletExchange Operation

variable {around : Surroundings} {past : History} {home : HomeCredentials}
  {bound : BoundCredentials} {request : LoginRequest} {aamId : String}

theorem run_fetchHomeToken (home : HomeCredentials) (h : home.LoginIs around past request) :
    (fetchHomeToken home).run around past =
      ((around.answer past.calls (.homeToken home.homeAam.address request)).mapError .call,
        past.read.called (.homeToken home.homeAam.address request)) := by
  have hbuild : LoginRequest.build home.username home.clientId home.key
      (around.clock past).seconds (around.freshTokenId past.read.calls) = .ok request := h
  unfold fetchHomeToken
  rw [run_bind_ok (run_clock around past), run_bind_ok (run_freshTokenId around past.read), hbuild]
  rfl

/-- A login that is answered puts an entry into the wallet, and one that is not leaves the wallet as
it was. -/
theorem run_login (s : Session) (h : home.LoginIs around s.past request) :
    (login home.homeAam home.username home.clientId home.key home.certificate).run around s =
      match around.answer s.calls (.homeToken home.homeAam.address request) with
      | .ok token => (.ok token,
          { wallet := s.wallet.put home.homeAam.id
              { aam := home.homeAam, home := { home with token := some token } }
            past := s.past.read.called (.homeToken home.homeAam.address request) })
      | .error e => (.error (.call e),
          { s with past := s.past.read.called (.homeToken home.homeAam.address request) }) := by
  have hfetch := run_fetchHomeToken { home with token := none } h
  unfold login
  rw [run_bind, run_lift, hfetch]
  simp only [Session.calls]
  cases around.answer s.past.calls (.homeToken home.homeAam.address request) with
  | ok token => rfl
  | error e => rfl

theorem run_relogin (s : Session) (held : s.wallet.get? aamId = some bound)
    (h : bound.home.LoginIs around s.past request) :
    (relogin aamId).run around s =
      match around.answer s.calls (.homeToken bound.home.homeAam.address request) with
      | .ok token => (.ok token,
          { wallet := s.wallet.put aamId (bound.refreshed token)
            past := s.past.read.called (.homeToken bound.home.homeAam.address request) })
      | .error e => (.error (.call e),
          { s with past := s.past.read.called (.homeToken bound.home.homeAam.address request) }) := by
  unfold relogin
  rw [run_bind_ok (run_wallet around s), held]
  dsimp only
  rw [run_bind, run_lift, run_fetchHomeToken bound.home h]
  simp only [Session.calls]
  cases around.answer s.past.calls (.homeToken bound.home.homeAam.address request) with
  | ok token => rfl
  | error e => rfl

end Handler

namespace Component

open Exchange WalletExchange Operation

/-! ## The core AAM and its tokens -/

@[reducible] def listing (component : Component) : Call :=
  .availableAams component.configuration.localAddress

/-- The core AAM is among those that the local AAM lists, when it is asked after some calls. -/
def LearnsOf (component : Component) (around : Surroundings) (calls : List Call) (core : Aam) :
    Prop :=
  ∃ aams, around.answer calls component.listing = .ok aams ∧ aams.get? coreAamId = some core

/-- The key that a token of an AAM is judged by: that of the AAM's certificate, or the one in the
token when the certificate cannot be decoded. -/
def judgingKey (aam : Aam) (token : Token) : Except KeyError Ed25519.PublicKey :=
  match aam.certificate.publicKey with
  | .ok key => .ok key
  | .error _ => Ed25519.PublicKey.ofWire token.claims.issuerKey

/-- The home token of an entry is valid under the key of the core AAM. -/
def HoldsValid (component : Component) (core : Aam) (bound : BoundCredentials) (now : Int64) :
    Prop :=
  ∃ token key, bound.home.token = some token ∧ judgingKey core token = .ok key ∧
    component.configuration.validator.validateAt token.text (some key) now = .ok .valid

@[reducible] def certification (component : Component) (core : Aam) (key : Ed25519.SecretKey) :
    Call :=
  .clientCertificate core.address
    { username := component.configuration.ownerUsername
      password := component.configuration.ownerPassword
      clientId := component.configuration.componentId
      publicKey := .ofPublicKey key.publicKey }

def account (component : Component) (core : Aam) (key : Ed25519.SecretKey)
    (certificate : Certificate) : HomeCredentials where
  homeAam := core
  username := component.configuration.ownerUsername
  clientId := component.configuration.componentId
  certificate := certificate
  key := key

def loggedIn (component : Component) (core : Aam) (key : Ed25519.SecretKey)
    (certificate : Certificate) (token : Token) : BoundCredentials where
  aam := core
  home := { component.account core key certificate with token := some token }

variable {component : Component} {around : Surroundings} {s : Session} {core : Aam}
  {bound : BoundCredentials} {key : Ed25519.SecretKey} {certificate : Certificate}
  {request : LoginRequest} {token : Token} {past : History} {wallet wallet' : Wallet}
  {later : List Call} {done : Bool}

theorem isUsable_iff {token : Token} {now : Int64} :
    component.isUsable token core now = true ↔ ∃ key, judgingKey core token = .ok key ∧
      component.configuration.validator.validateAt token.text (some key) now = .ok .valid := by
  have hmatches : component.isUsable token core now = true ↔
      component.configuration.validator.validateAt token.text core.certificate.publicKey.toOption
        now = .ok .valid := by
    unfold isUsable
    split
    · rename_i h
      simp [h]
    · rename_i h
      simp only [Bool.false_eq_true, false_iff]
      exact h
  rw [hmatches]
  simp only [Validator.validateAt_text, Validator.check_valid_iff, judgingKey]
  cases core.certificate.publicKey with
  | ok key => simp [Except.toOption, Validator.issuerKey]
  | error e =>
    -- given no key, the validator takes the one in the token by itself
    have hembedded : ∀ key, Validator.issuerKey token.decoded none = .ok key ↔
        Ed25519.PublicKey.ofWire token.claims.issuerKey = .ok key := fun _ => mapError_ok_iff
    have hgiven : ∀ key found, Validator.issuerKey token.decoded (some key) = .ok found ↔
        key = found := fun _ _ => ⟨Except.ok.inj, congrArg Except.ok⟩
    simp only [Except.toOption, hembedded, hgiven, exists_eq_left']
    constructor
    · rintro ⟨halgorithm, ⟨key, hkey, hsigned⟩, htime⟩
      exact ⟨key, hkey, halgorithm, hsigned, htime⟩
    · rintro ⟨key, hkey, halgorithm, hsigned, htime⟩
      exact ⟨halgorithm, ⟨key, hkey, hsigned⟩, htime⟩

/-! ## Renewing an entry -/

/-- How an entry towards the core AAM is renewed: which calls are made, which wallet is left, and
whether there is a valid token in the end. -/
inductive Renews (component : Component) (around : Surroundings) (core : Aam) (past : History)
    (wallet : Wallet) (bound : BoundCredentials) : List Call → Wallet → Bool → Prop
  /-- The home token is valid, and nobody is asked. -/
  | valid (holds : component.HoldsValid core bound (around.clock past).seconds) :
    Renews component around core past wallet bound [] wallet true
  /-- The home AAM of the entry gives out another home token. -/
  | renewed {request : LoginRequest} {token : Token}
    (lapsed : ¬ component.HoldsValid core bound (around.clock past).seconds)
    (login : bound.home.LoginIs around past.read request)
    (answer : around.answer past.calls (.homeToken bound.home.homeAam.address request) =
      .ok token) :
    Renews component around core past wallet bound
      [.homeToken bound.home.homeAam.address request]
      (wallet.put core.id (bound.refreshed token)) true
  /-- It does not, and the entry stays as it is. -/
  | refused {request : LoginRequest} {e : CallError}
    (lapsed : ¬ component.HoldsValid core bound (around.clock past).seconds)
    (login : bound.home.LoginIs around past.read request)
    (answer : around.answer past.calls (.homeToken bound.home.homeAam.address request) =
      .error e) :
    Renews component around core past wallet bound
      [.homeToken bound.home.homeAam.address request] wallet false

/-- A result is made of the entry that the wallet holds towards the core AAM, and of its home
token. -/
def MadeOf {α : Type} (make : BoundCredentials → Token → α) (core : Aam)
    (result : Except HandlerError α) (wallet : Wallet) : Prop :=
  ∀ a, result = .ok a → ∃ bound token, a = make bound token ∧
    wallet.get? core.id = some bound ∧ bound.home.token = some token

theorem holdsValid_iff {now : Int64} :
    component.HoldsValid core bound now ↔
      ∃ token, bound.home.token = some token ∧ component.isUsable token core now = true := by
  simp only [HoldsValid, isUsable_iff, exists_and_left]

theorem coreToken_of_valid (held : s.wallet.get? core.id = some bound)
    (holds : component.HoldsValid core bound (around.clock s.past).seconds) :
    ∃ token, bound.home.token = some token ∧
      (component.coreToken core).run around s = (.ok token, { s with past := s.past.read }) := by
  obtain ⟨token, hhome, husable⟩ := holdsValid_iff.1 holds
  have hcurrent : s.wallet.homeToken? core.id = some token := by
    rw [Wallet.homeToken?, held]
    exact hhome
  refine ⟨token, hhome, ?_⟩
  unfold coreToken
  rw [run_bind_ok (run_lift clock around s)]
  rw [run_bind_ok (run_wallet around _)]
  simp only [run_clock, hcurrent, husable, if_true]
  rfl

theorem coreToken_of_not_valid (held : s.wallet.get? core.id = some bound)
    (lapsed : ¬ component.HoldsValid core bound (around.clock s.past).seconds) :
    (component.coreToken core).run around s =
      (Handler.relogin core.id).run around { s with past := s.past.read } := by
  have hcurrent : s.wallet.homeToken? core.id = bound.home.token := by
    rw [Wallet.homeToken?, held]
    rfl
  unfold coreToken
  rw [run_bind_ok (run_lift clock around s), run_bind_ok (run_wallet around _)]
  simp only [run_clock, hcurrent]
  cases hhome : bound.home.token with
  | none => rfl
  | some token =>
    have hunusable : component.isUsable token core (around.clock s.past).seconds = false :=
      Bool.eq_false_iff.2 fun husable => lapsed (holdsValid_iff.2 ⟨token, hhome, husable⟩)
    simp only [hunusable, Bool.false_eq_true, if_false]

/-- The token that the component goes on with comes from a renewal, and it is the home token in the
wallet. -/
theorem coreToken_renews (component : Component) (around : Surroundings) (s : Session)
    (held : s.wallet.get? core.id = some bound) :
    ∃ later, Renews component around core s.past s.wallet bound later
        ((component.coreToken core).run around s).2.wallet
        ((component.coreToken core).run around s).1.isOk ∧
      ((component.coreToken core).run around s).2.calls = s.calls ++ later ∧
      MadeOf (fun _ token => token) core ((component.coreToken core).run around s).1
        ((component.coreToken core).run around s).2.wallet := by
  -- without a home token nothing is valid either, so validity alone tells the cases apart
  by_cases holds : component.HoldsValid core bound (around.clock s.past).seconds
  · obtain ⟨token, hhome, hrun⟩ := coreToken_of_valid held holds
    rw [hrun]
    refine ⟨[], .valid holds, by simp [Session.calls], ?_⟩
    rintro _ ⟨⟩
    exact ⟨bound, token, rfl, held, hhome⟩
  · obtain ⟨request, hlogin⟩ := bound.home.exists_login around s.past.read
    rw [coreToken_of_not_valid held holds,
      Handler.run_relogin { s with past := s.past.read } held hlogin]
    simp only [Session.calls, History.calls_read]
    cases hanswer : around.answer s.past.calls (.homeToken bound.home.homeAam.address request) with
    | ok token =>
      dsimp only
      refine ⟨_, .renewed holds hlogin hanswer, by simp, ?_⟩
      rintro _ ⟨⟩
      exact ⟨bound.refreshed token, token, rfl, Dictionary.get?_put.trans (if_pos rfl), rfl⟩
    | error e =>
      dsimp only
      exact ⟨_, .refused holds hlogin hanswer, by simp, forall_ok_of_error _⟩

/-! ## Logging in -/

/-- What has happened when the AAMs have been listed. -/
def listed (component : Component) (s : Session) : History :=
  s.past.called component.listing

/-- What has happened when a certificate has been asked for, too. -/
def asked (component : Component) (s : Session) (core : Aam) (key : Ed25519.SecretKey) : History :=
  (component.listed s).called (component.certification core key)

def entered (component : Component) (s : Session) (core : Aam) (key : Ed25519.SecretKey)
    (certificate : Certificate) (request : LoginRequest) (token : Token) : Session where
  wallet := s.wallet.put core.id (component.loggedIn core key certificate token)
  past := (component.asked s core key).read.called (.homeToken core.address request)

/-- The wallet holds nothing towards the core AAM, and a new key is certified. -/
structure Certifies (component : Component) (around : Surroundings) (s : Session) (core : Aam)
    (key : Ed25519.SecretKey) (certificate : Certificate) : Prop where
  learns : component.LearnsOf around s.calls core
  missing : s.wallet.get? core.id = none
  fresh : key = around.freshKey (component.listed s).calls
  answer : around.answer (component.listed s).calls (component.certification core key) =
    .ok certificate

/-- The ends that the component's care for its core credentials can come to: which calls are made
after the first one, which wallet is left, and whether there are credentials. -/
inductive Course (component : Component) (around : Surroundings) (s : Session) :
    List Call → Wallet → Bool → Prop
  /-- The local AAM does not answer. -/
  | unlisted {e : CallError} (answer : around.answer s.calls component.listing = .error e) :
    Course component around s [] s.wallet false
  /-- It does not know the core AAM. -/
  | unknown {aams : Dictionary Aam} (answer : around.answer s.calls component.listing = .ok aams)
    (missing : aams.get? coreAamId = none) :
    Course component around s [] s.wallet false
  /-- There is an entry, and it is renewed. -/
  | held {core : Aam} {bound : BoundCredentials} {later : List Call} {wallet : Wallet}
    {done : Bool} (learns : component.LearnsOf around s.calls core)
    (held : s.wallet.get? core.id = some bound)
    (renews : Renews component around core (component.listed s) s.wallet bound later wallet done) :
    Course component around s later wallet done
  /-- There is none, and no certificate for a new one. -/
  | uncertified {core : Aam} {key : Ed25519.SecretKey} {e : CallError}
    (learns : component.LearnsOf around s.calls core) (missing : s.wallet.get? core.id = none)
    (fresh : key = around.freshKey (component.listed s).calls)
    (answer : around.answer (component.listed s).calls (component.certification core key) =
      .error e) :
    Course component around s [component.certification core key] s.wallet false
  /-- There is a certificate, and the login with it is refused. -/
  | refused {core : Aam} {key : Ed25519.SecretKey} {certificate : Certificate}
    {request : LoginRequest} {e : CallError}
    (certifies : component.Certifies around s core key certificate)
    (login : (component.account core key certificate).LoginIs around (component.asked s core key)
      request)
    (answer : around.answer (component.asked s core key).calls (.homeToken core.address request) =
      .error e) :
    Course component around s
      [component.certification core key, .homeToken core.address request] s.wallet false
  /-- The login makes an entry, and it is renewed like any other. -/
  | entered {core : Aam} {key : Ed25519.SecretKey} {certificate : Certificate}
    {request : LoginRequest} {token : Token} {later : List Call} {wallet : Wallet} {done : Bool}
    (certifies : component.Certifies around s core key certificate)
    (login : (component.account core key certificate).LoginIs around (component.asked s core key)
      request)
    (answer : around.answer (component.asked s core key).calls (.homeToken core.address request) =
      .ok token)
    (renews : Renews component around core
      (component.entered s core key certificate request token).past
      (component.entered s core key certificate request token).wallet
      (component.loggedIn core key certificate token) later wallet done) :
    Course component around s
      (component.certification core key :: .homeToken core.address request :: later) wallet done

theorem ensureLogin_of_held (component : Component) (around : Surroundings) (s : Session)
    (held : s.wallet.get? core.id = some bound) :
    (component.ensureLogin core).run around s = (.ok (), s) := by
  unfold ensureLogin
  rw [run_bind_ok (run_wallet around s)]
  simp only [held, Option.isNone_some, Bool.false_eq_true, if_false, run_pure]

/-- Without one, a certificate is asked for first. -/
theorem ensureLogin_of_missing (missing : s.wallet.get? core.id = none)
    (fresh : key = around.freshKey (component.listed s).calls) :
    (component.ensureLogin core).run around { s with past := component.listed s } =
      match around.answer (component.listed s).calls (component.certification core key) with
      | .error e => (.error (.call e), { s with past := component.asked s core key })
      | .ok certificate =>
        (discard (Handler.login core component.configuration.ownerUsername
          component.configuration.componentId key certificate)).run around
          { s with past := component.asked s core key } := by
  subst fresh
  unfold ensureLogin
  rw [run_bind_ok (run_wallet around _)]
  simp only [missing, Option.isNone_none, if_true]
  unfold Handler.acquireCertificate
  rw [run_bind, run_lift, run_bind_ok (run_freshKey around _), run_bind, run_ask]
  cases around.answer (component.listed s).calls
    (component.certification core (around.freshKey (component.listed s).calls)) with
  | ok certificate => rfl
  | error e => rfl

theorem ensureLogin_of_uncertified {e : CallError} (missing : s.wallet.get? core.id = none)
    (fresh : key = around.freshKey (component.listed s).calls)
    (answer : around.answer (component.listed s).calls (component.certification core key) =
      .error e) :
    (component.ensureLogin core).run around { s with past := component.listed s } =
      (.error (.call e), { s with past := component.asked s core key }) := by
  rw [ensureLogin_of_missing missing fresh, answer]

theorem ensureLogin_of_certifies (certifies : component.Certifies around s core key certificate)
    (hlogin : (component.account core key certificate).LoginIs around (component.asked s core key)
      request) :
    (component.ensureLogin core).run around { s with past := component.listed s } =
      match around.answer (component.asked s core key).calls
        (.homeToken core.address request) with
      | .error e => (.error (.call e), { s with
          past := (component.asked s core key).read.called (.homeToken core.address request) })
      | .ok token => (.ok (), component.entered s core key certificate request token) := by
  have hrun := Handler.run_login { s with past := component.asked s core key } hlogin
  dsimp only [account, Session.calls] at hrun
  rw [ensureLogin_of_missing certifies.missing certifies.fresh, certifies.answer]
  -- the token of the login is dropped; only the entry counts
  change Operation.run (_ >>= fun _ => pure ()) around _ = _
  rw [run_bind, hrun]
  cases around.answer (component.asked s core key).calls (.homeToken core.address request) with
  | ok token => rfl
  | error e => rfl

def credentialsOf (bound : BoundCredentials) (token : Token) : AuthorizationCredentials :=
  ⟨token, bound.aam, bound.home⟩

/-- The entry towards the core AAM with a valid token. -/
def renewed (component : Component) (core : Aam) : WalletExchange AuthorizationCredentials := do
  let token ← component.coreToken core
  match (← WalletExchange.wallet).get? core.id with
  | some bound => return ⟨token, bound.aam, bound.home⟩
  | none => .fail (.notLoggedIn core.id)

theorem renewed_renews (component : Component) (around : Surroundings) (s : Session)
    (held : s.wallet.get? core.id = some bound) :
    ∃ later, Renews component around core s.past s.wallet bound later
        ((component.renewed core).run around s).2.wallet
        ((component.renewed core).run around s).1.isOk ∧
      ((component.renewed core).run around s).2.calls = s.calls ++ later ∧
      MadeOf credentialsOf core ((component.renewed core).run around s).1
        ((component.renewed core).run around s).2.wallet := by
  obtain ⟨later, hrenews, hcalls, hmade⟩ := coreToken_renews component around s held
  refine ⟨later, ?_⟩
  unfold renewed
  rcases hrun : (component.coreToken core).run around s with ⟨e | token, s'⟩
  · rw [hrun] at hrenews hcalls
    rw [run_bind_error hrun]
    exact ⟨hrenews, hcalls, forall_ok_of_error _⟩
  · rw [hrun] at hrenews hcalls hmade
    -- the wallet is looked up once more, and the entry of the token is still there
    obtain ⟨bound', token', rfl, hheld, hhome⟩ := hmade token rfl
    rw [run_bind_ok hrun, run_bind_ok (run_wallet around s')]
    simp only [hheld, run_pure]
    refine ⟨hrenews, hcalls, ?_⟩
    rintro _ ⟨⟩
    exact ⟨bound', token, rfl, hheld, hhome⟩

/-- The run comes to one of the ends, and if it is a good one, to credentials towards the core
AAM. -/
structure Follows (component : Component) (around : Surroundings) (s : Session) (later : List Call)
    (run : Except HandlerError AuthorizationCredentials × Session) : Prop where
  course : Course component around s later run.2.wallet run.1.isOk
  calls_eq : run.2.calls = s.calls ++ component.listing :: later
  made : ∀ credentials, run.1 = .ok credentials → ∃ core bound token,
    component.LearnsOf around s.calls core ∧ credentials = credentialsOf bound token ∧
    run.2.wallet.get? core.id = some bound ∧ bound.home.token = some token

theorem run_listing (component : Component) (around : Surroundings) (s : Session) :
    (lift (Handler.availableAamsVia component.localAam.address)).run around s =
      ((around.answer s.calls component.listing).mapError .call,
        { s with past := component.listed s }) := rfl

theorem coreCredentials_of_learns (learns : component.LearnsOf around s.calls core) :
    component.coreCredentials.run around s =
      (component.ensureLogin core >>= fun _ => component.renewed core).run around
        { s with past := component.listed s } := by
  obtain ⟨aams, hanswer, hcore⟩ := learns
  have hlist : (lift (Handler.availableAamsVia component.localAam.address)).run around s =
      (.ok aams, { s with past := component.listed s }) := by
    rw [run_listing, hanswer]
    rfl
  unfold coreCredentials
  rw [run_bind_ok hlist]
  simp only [hcore]
  rfl

theorem follows_of_held (learns : component.LearnsOf around s.calls core)
    (held : s.wallet.get? core.id = some bound) :
    ∃ later, component.Follows around s later (component.coreCredentials.run around s) := by
  obtain ⟨later, hrenews, hcalls, hmade⟩ :=
    renewed_renews component around { s with past := component.listed s } held
  rw [coreCredentials_of_learns learns,
    run_bind_ok (ensureLogin_of_held component around { s with past := component.listed s } held)]
  refine ⟨later, .held learns held hrenews, ?_, fun credentials h => ?_⟩
  · rw [hcalls]
    simp [Session.calls, listed]
  · obtain ⟨bound', token, hof⟩ := hmade credentials h
    exact ⟨core, bound', token, learns, hof⟩

theorem follows_of_certifies (certifies : component.Certifies around s core key certificate) :
    ∃ later, component.Follows around s later (component.coreCredentials.run around s) := by
  obtain ⟨request, hlogin⟩ := (component.account core key certificate).exists_login around
    (component.asked s core key)
  have hensured := ensureLogin_of_certifies certifies hlogin
  rw [coreCredentials_of_learns certifies.learns]
  cases hanswer : around.answer (component.asked s core key).calls
      (.homeToken core.address request) with
  | error e =>
    rw [hanswer] at hensured
    rw [run_bind_error hensured]
    refine ⟨_, .refused certifies hlogin hanswer, ?_, forall_ok_of_error _⟩
    simp [Session.calls, asked, listed]
  | ok token =>
    rw [hanswer] at hensured
    rw [run_bind_ok hensured]
    obtain ⟨later, hrenews, hcalls, hmade⟩ :=
      renewed_renews component around (component.entered s core key certificate request token)
        (Dictionary.get?_put.trans (if_pos rfl))
    refine ⟨_, .entered certifies hlogin hanswer hrenews, ?_, fun credentials h => ?_⟩
    · rw [hcalls]
      simp [Session.calls, entered, asked, listed]
    · obtain ⟨bound', token', hof⟩ := hmade credentials h
      exact ⟨core, bound', token', certifies.learns, hof⟩

theorem follows_of_missing (learns : component.LearnsOf around s.calls core)
    (missing : s.wallet.get? core.id = none) :
    ∃ later, component.Follows around s later (component.coreCredentials.run around s) := by
  obtain ⟨key, fresh⟩ : ∃ key, key = around.freshKey (component.listed s).calls := ⟨_, rfl⟩
  cases hanswer : around.answer (component.listed s).calls (component.certification core key) with
  | ok certificate => exact follows_of_certifies ⟨learns, missing, fresh, hanswer⟩
  | error e =>
    rw [coreCredentials_of_learns learns,
      run_bind_error (ensureLogin_of_uncertified missing fresh hanswer)]
    refine ⟨_, .uncertified learns missing fresh hanswer, ?_, forall_ok_of_error _⟩
    simp [Session.calls, asked, listed]

/-- **The care for the core credentials.** Every run comes to one of the ends. -/
theorem coreCredentials_follows (component : Component) (around : Surroundings) (s : Session) :
    ∃ later, component.Follows around s later (component.coreCredentials.run around s) := by
  have hlist := run_listing component around s
  cases hanswer : around.answer s.calls component.listing with
  | error e =>
    have hrun : component.coreCredentials.run around s =
        (.error (.call e), { s with past := component.listed s }) := by
      unfold coreCredentials
      rw [hanswer] at hlist
      exact run_bind_error hlist
    rw [hrun]
    exact ⟨[], .unlisted hanswer, rfl, forall_ok_of_error _⟩
  | ok aams =>
    cases hcore : aams.get? coreAamId with
    | none =>
      have hrun : component.coreCredentials.run around s =
          (.error (.aamUnavailable coreAamId), { s with past := component.listed s }) := by
        unfold coreCredentials
        rw [hanswer] at hlist
        rw [run_bind_ok hlist]
        simp only [hcore, run_fail]
      rw [hrun]
      exact ⟨[], .unknown hanswer hcore, rfl, forall_ok_of_error _⟩
    | some core =>
      have learns : component.LearnsOf around s.calls core := ⟨aams, hanswer, hcore⟩
      cases hentry : s.wallet.get? core.id with
      | some bound => exact follows_of_held learns hentry
      | none => exact follows_of_missing learns hentry

end Component

end FederatedAccess
