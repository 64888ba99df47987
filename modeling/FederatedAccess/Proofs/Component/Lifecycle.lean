import FederatedAccess.Proofs.Component.Course

/-!
# Requests and responses of a component

What a component does when it makes a request or a response (`Component.Lifecycle`): which calls it
makes and in which order, what the result is made of, and what becomes of the wallet, with a result
and without one. All of it is read off the ends that the care for the core credentials can come to.
-/

namespace FederatedAccess

namespace Component

open Exchange WalletExchange Operation

/-- Every call but the last was answered before the next one was made. -/
def InTurn (around : Surroundings) : List Call → List Call → Prop
  | before, call :: next :: rest =>
    (∃ answer, around.answer before call = .ok answer) ∧
      InTurn around (before ++ [call]) (next :: rest)
  | _, _ => True

/-- How an entry is renewed: no call is made while its home token is valid, else one for another
token, which is given or not. -/
structure RenewsBy (component : Component) (around : Surroundings) (core : Aam) (past : History)
    (bound : BoundCredentials) (later : List Call) (done : Bool) : Prop where
  of_valid : component.HoldsValid core bound (around.clock past).seconds →
    later = [] ∧ done = true
  of_lapsed : ¬ component.HoldsValid core bound (around.clock past).seconds →
    ∃ request, bound.home.LoginIs around past.read request ∧
      later = [.homeToken bound.home.homeAam.address request] ∧
      (done = true ↔ ∃ token, around.answer past.calls
        (.homeToken bound.home.homeAam.address request) = .ok token)

/-- How an entry is made: with a certificate and a login, one after the other, of which each may
fail; then it is renewed like any other. -/
def EntersBy (component : Component) (around : Surroundings) (s : Session) (core : Aam)
    (later : List Call) (done : Bool) : Prop :=
  ∃ key, key = around.freshKey (component.listed s).calls ∧
    (((∃ e, around.answer (component.listed s).calls (component.certification core key) =
        .error e) ∧
      later = [component.certification core key] ∧ done = false) ∨
    ∃ certificate request, component.Certifies around s core key certificate ∧
      (component.account core key certificate).LoginIs around (component.asked s core key)
        request ∧
      (((∃ e, around.answer (component.asked s core key).calls
          (.homeToken core.address request) = .error e) ∧
        later = [component.certification core key, .homeToken core.address request] ∧
        done = false) ∨
      ∃ token rest, around.answer (component.asked s core key).calls
          (.homeToken core.address request) = .ok token ∧
        later = component.certification core key :: .homeToken core.address request :: rest ∧
        component.RenewsBy around core
          (component.entered s core key certificate request token).past
          (component.loggedIn core key certificate token) rest done))

/-- What is said of one request or response that a component makes, or of one that it fails to make;
`later` are the calls after the first one. -/
structure Lifecycle {α : Type} (component : Component) (around : Surroundings) (s : Session)
    (Made : BoundCredentials → Token → Int64 → α → Prop) (later : List Call)
    (run : Except HandlerError α × Session) : Prop where
  /-- The core credentials come to one of their ends, which is a good one if there is a result. -/
  course : Course component around s later run.2.wallet run.1.isOk
  /-- The local AAM is asked first which AAMs there are. -/
  calls_eq : run.2.calls = s.calls ++ component.listing :: later
  /-- That is not asked again. -/
  listed_once : ∀ call ∈ later, call.name ≠ "available_aams"
  /-- Each step is taken only after the one before was successful. -/
  in_turn : InTurn around s.calls (component.listing :: later)
  /-- At most one certificate is asked for. -/
  certified_once : (later.map Call.name).count "client_certificate" ≤ 1
  /-- A certificate is asked for only when nothing is held towards the core AAM. -/
  certified_if_missing : "client_certificate" ∈ later.map Call.name →
    ∃ core, component.LearnsOf around s.calls core ∧ s.wallet.get? core.id = none
  /-- At most two home tokens are asked for. -/
  tokens_twice : (later.map Call.name).count "home_token" ≤ 2
  /-- With an entry towards the core AAM, there is at most another home token to ask for. -/
  of_held : ∀ core bound, component.LearnsOf around s.calls core →
    s.wallet.get? core.id = some bound →
    component.RenewsBy around core (component.listed s) bound later run.1.isOk
  /-- Without one, a certificate is asked for first, and a home token next. -/
  of_missing : ∀ core, component.LearnsOf around s.calls core → s.wallet.get? core.id = none →
    component.EntersBy around s core later run.1.isOk
  /-- When the core AAM is not learnt of, nothing else is asked for, and there is no result. -/
  of_unknown : (∀ core, ¬ component.LearnsOf around s.calls core) →
    later = [] ∧ run.1.isOk = false
  /-- The result is made of the entry that the wallet now holds towards the core AAM, and of its
  home token. -/
  of_ok : ∀ a, run.1 = .ok a → ∃ core bound token past,
    component.LearnsOf around s.calls core ∧ run.2.wallet.get? core.id = some bound ∧
    bound.home.token = some token ∧ run.2.past = past.read ∧
    Made bound token (around.clock past).millis a
  /-- Without a result the entry towards the core AAM is as it was, or it is that of the login
  with a new certificate, which was answered. -/
  of_error : ∀ e core, run.1 = .error e → component.LearnsOf around s.calls core →
    run.2.wallet.get? core.id = s.wallet.get? core.id ∨
    ∃ key certificate request token, component.Certifies around s core key certificate ∧
      (component.account core key certificate).LoginIs around (component.asked s core key)
        request ∧
      around.answer (component.asked s core key).calls (.homeToken core.address request) =
        .ok token ∧
      run.2.wallet.get? core.id = some (component.loggedIn core key certificate token)
  /-- The entries towards all other AAMs are as they were. -/
  others : ∀ aamId, (∀ core, component.LearnsOf around s.calls core → aamId ≠ core.id) →
    run.2.wallet.get? aamId = s.wallet.get? aamId

variable {component : Component} {around : Surroundings} {s : Session} {core core' : Aam}
  {bound : BoundCredentials} {key : Ed25519.SecretKey} {certificate : Certificate}
  {past : History} {wallet wallet' : Wallet} {later : List Call} {done : Bool} {aamId : String}

/-! ## Renewals -/

/-- What can be asked of AAMs after the first call when there is an entry. -/
def heldOrders : List (List String) := [[], ["home_token"]]

/-- What can be asked of AAMs after the first call when there is no entry. -/
def missingOrders : List (List String) :=
  [["client_certificate"], ["client_certificate", "home_token"],
    ["client_certificate", "home_token", "home_token"]]

namespace Renews

theorem renewsBy (h : Renews component around core past wallet bound later wallet' done) :
    component.RenewsBy around core past bound later done := by
  cases h with
  | valid holds => exact ⟨fun _ => ⟨rfl, rfl⟩, fun lapsed => absurd holds lapsed⟩
  | renewed lapsed login answer =>
    exact ⟨fun holds => absurd holds lapsed,
      fun _ => ⟨_, login, rfl, iff_of_true rfl ⟨_, answer⟩⟩⟩
  | refused lapsed login answer =>
    refine ⟨fun holds => absurd holds lapsed,
      fun _ => ⟨_, login, rfl, iff_of_false Bool.false_ne_true ?_⟩⟩
    rintro ⟨token, hanswer⟩
    cases answer.symm.trans hanswer

theorem calls_eq (h : Renews component around core past wallet bound later wallet' done) :
    later = [] ∨ ∃ request, later = [.homeToken bound.home.homeAam.address request] := by
  cases h with
  | valid => exact .inl rfl
  | renewed => exact .inr ⟨_, rfl⟩
  | refused => exact .inr ⟨_, rfl⟩

theorem names_mem (h : Renews component around core past wallet bound later wallet' done) :
    later.map Call.name ∈ heldOrders := by
  rcases h.calls_eq with rfl | ⟨request, rfl⟩
  · exact List.mem_cons_self
  · exact List.mem_cons_of_mem _ List.mem_cons_self

theorem get?_of_ne (h : Renews component around core past wallet bound later wallet' done)
    (hne : aamId ≠ core.id) : wallet'.get? aamId = wallet.get? aamId := by
  cases h with
  | valid => rfl
  | renewed => exact Dictionary.get?_put.trans (if_neg hne)
  | refused => rfl

/-- A renewal that fails changes nothing. -/
theorem wallet_eq (h : Renews component around core past wallet bound later wallet' false) :
    wallet' = wallet := by
  cases h with
  | refused => rfl

end Renews

/-! ## Courses -/

theorem LearnsOf.unique {calls : List Call} (h : component.LearnsOf around calls core)
    (h' : component.LearnsOf around calls core') : core = core' := by
  obtain ⟨aams, hanswer, hcore⟩ := h
  obtain ⟨aams', hanswer', hcore'⟩ := h'
  cases hanswer.symm.trans hanswer'
  exact Option.some.inj (hcore.symm.trans hcore')

theorem LearnsOf.ne_error {calls : List Call} (h : component.LearnsOf around calls core)
    {e : CallError} : around.answer calls component.listing ≠ .error e := by
  obtain ⟨aams, hanswer, -⟩ := h
  intro herror
  cases herror.symm.trans hanswer

theorem LearnsOf.get?_ne_none {calls : List Call} (h : component.LearnsOf around calls core)
    {aams : Dictionary Aam} (hanswer : around.answer calls component.listing = .ok aams) :
    aams.get? coreAamId ≠ none := by
  obtain ⟨aams', hanswer', hcore⟩ := h
  cases hanswer.symm.trans hanswer'
  exact Option.ne_none_iff_exists'.2 ⟨core, hcore⟩

namespace Course

/-- With an entry there is nothing but its renewal. -/
theorem renews_of_held (h : Course component around s later wallet done)
    (learns : component.LearnsOf around s.calls core) (held : s.wallet.get? core.id = some bound) :
    Renews component around core (component.listed s) s.wallet bound later wallet done := by
  -- only one AAM can be learnt of as the core AAM, so the other ends are about the same entry
  have hmissing : ∀ {core'}, component.LearnsOf around s.calls core' →
      s.wallet.get? core'.id ≠ none := fun learns' => by
    rw [← learns.unique learns', held]
    exact Option.some_ne_none bound
  cases h with
  | unlisted answer => exact absurd answer learns.ne_error
  | unknown answer missing => exact absurd missing (learns.get?_ne_none answer)
  | held learns' held' renews =>
    cases learns.unique learns'
    cases held.symm.trans held'
    exact renews
  | uncertified learns' missing => exact absurd missing (hmissing learns')
  | refused certifies => exact absurd certifies.missing (hmissing certifies.learns)
  | entered certifies => exact absurd certifies.missing (hmissing certifies.learns)

/-- Without one it is made. -/
theorem entersBy_of_missing (h : Course component around s later wallet done)
    (learns : component.LearnsOf around s.calls core) (missing : s.wallet.get? core.id = none) :
    component.EntersBy around s core later done := by
  cases h with
  | unlisted answer => exact absurd answer learns.ne_error
  | unknown answer missing => exact absurd missing (learns.get?_ne_none answer)
  | held learns' held =>
    cases learns.unique learns'
    cases missing.symm.trans held
  | uncertified learns' missing' fresh answer =>
    cases learns.unique learns'
    exact ⟨_, fresh, .inl ⟨⟨_, answer⟩, rfl, rfl⟩⟩
  | refused certifies login answer =>
    cases learns.unique certifies.learns
    exact ⟨_, certifies.fresh, .inr ⟨_, _, certifies, login, .inl ⟨⟨_, answer⟩, rfl, rfl⟩⟩⟩
  | entered certifies login answer renews =>
    cases learns.unique certifies.learns
    exact ⟨_, certifies.fresh,
      .inr ⟨_, _, certifies, login, .inr ⟨_, _, answer, rfl, renews.renewsBy⟩⟩⟩

/-- A bad end leaves the entry towards the core AAM as it was, or as the login made it. -/
theorem get?_of_bad (h : Course component around s later wallet false)
    (learns : component.LearnsOf around s.calls core) :
    wallet.get? core.id = s.wallet.get? core.id ∨
    ∃ key certificate request token, component.Certifies around s core key certificate ∧
      (component.account core key certificate).LoginIs around (component.asked s core key)
        request ∧
      around.answer (component.asked s core key).calls (.homeToken core.address request) =
        .ok token ∧
      wallet.get? core.id = some (component.loggedIn core key certificate token) := by
  cases h with
  | unlisted | unknown | uncertified | refused => exact .inl rfl
  | held _ _ renews => exact .inl (by rw [renews.wallet_eq])
  | entered certifies login answer renews =>
    cases learns.unique certifies.learns
    refine .inr ⟨_, _, _, _, certifies, login, answer, ?_⟩
    rw [renews.wallet_eq]
    exact Dictionary.get?_put.trans (if_pos rfl)

theorem of_unknown (h : Course component around s later wallet done)
    (hnone : ∀ core, ¬ component.LearnsOf around s.calls core) : later = [] ∧ done = false := by
  cases h with
  | unlisted | unknown => exact ⟨rfl, rfl⟩
  | held learns | uncertified learns => exact absurd learns (hnone _)
  | refused certifies | entered certifies => exact absurd certifies.learns (hnone _)

/-- The later calls are those for an entry, or those for a new one. -/
theorem names_mem (h : Course component around s later wallet done) :
    later.map Call.name ∈ heldOrders ∨ later.map Call.name ∈ missingOrders ∧
      ∃ core, component.LearnsOf around s.calls core ∧ s.wallet.get? core.id = none := by
  cases h with
  | unlisted | unknown => exact .inl List.mem_cons_self
  | held learns held renews => exact .inl renews.names_mem
  | uncertified learns missing =>
    exact .inr ⟨by simp [missingOrders, Call.name], _, learns, missing⟩
  | refused certifies =>
    exact .inr ⟨by simp [missingOrders, Call.name], _, certifies.learns, certifies.missing⟩
  | entered certifies login answer renews =>
    refine .inr ⟨?_, _, certifies.learns, certifies.missing⟩
    have := renews.names_mem
    simpa [heldOrders, missingOrders, Call.name] using this

theorem names_mem_orders (h : Course component around s later wallet done) :
    later.map Call.name ∈ heldOrders ++ missingOrders := by
  rcases h.names_mem with hheld | ⟨hmissing, -⟩
  · exact List.mem_append_left _ hheld
  · exact List.mem_append_right _ hmissing

theorem in_turn (h : Course component around s later wallet done) :
    InTurn around s.calls (component.listing :: later) := by
  have hlisted : ∀ {core}, component.LearnsOf around s.calls core →
      ∃ answer, around.answer s.calls component.listing = .ok answer :=
    fun ⟨aams, hanswer, _⟩ => ⟨aams, hanswer⟩
  cases h with
  | unlisted | unknown => trivial
  | held learns held renews =>
    rcases renews.calls_eq with rfl | ⟨request, rfl⟩
    · trivial
    · exact ⟨hlisted learns, trivial⟩
  | uncertified learns => exact ⟨hlisted learns, trivial⟩
  | refused certifies => exact ⟨hlisted certifies.learns, ⟨_, certifies.answer⟩, trivial⟩
  | entered certifies login answer renews =>
    refine ⟨hlisted certifies.learns, ⟨_, certifies.answer⟩, ?_⟩
    rcases renews.calls_eq with rfl | ⟨request, rfl⟩
    · trivial
    · exact ⟨⟨_, answer⟩, trivial⟩

/-- Only the entry towards the core AAM is changed. -/
theorem get?_of_ne (h : Course component around s later wallet done)
    (hne : ∀ core, component.LearnsOf around s.calls core → aamId ≠ core.id) :
    wallet.get? aamId = s.wallet.get? aamId := by
  cases h with
  | unlisted | unknown | uncertified | refused => rfl
  | held learns held renews => exact renews.get?_of_ne (hne _ learns)
  | entered certifies login answer renews =>
    rw [renews.get?_of_ne (hne _ certifies.learns)]
    exact Dictionary.get?_put.trans (if_neg (hne _ certifies.learns))

end Course

/-! ## What is made with the credentials -/

theorem Lifecycle.of_course {α : Type} {Made : BoundCredentials → Token → Int64 → α → Prop}
    {run : Except HandlerError α × Session}
    (course : Course component around s later run.2.wallet run.1.isOk)
    (calls_eq : run.2.calls = s.calls ++ component.listing :: later)
    (of_ok : ∀ a, run.1 = .ok a → ∃ core bound token past,
      component.LearnsOf around s.calls core ∧ run.2.wallet.get? core.id = some bound ∧
      bound.home.token = some token ∧ run.2.past = past.read ∧
      Made bound token (around.clock past).millis a) :
    Lifecycle component around s Made later run where
  course := course
  calls_eq := calls_eq
  listed_once call hcall hname := by
    have habsent : ∀ names ∈ heldOrders ++ missingOrders, "available_aams" ∉ names := by decide
    exact habsent _ course.names_mem_orders (List.mem_map.2 ⟨call, hcall, hname⟩)
  in_turn := course.in_turn
  certified_once := by
    have honce : ∀ names ∈ heldOrders ++ missingOrders,
        names.count "client_certificate" ≤ 1 := by decide
    exact honce _ course.names_mem_orders
  certified_if_missing hcertified := by
    have habsent : ∀ names ∈ heldOrders, "client_certificate" ∉ names := by decide
    rcases course.names_mem with hheld | ⟨-, hmissing⟩
    · exact absurd hcertified (habsent _ hheld)
    · exact hmissing
  tokens_twice := by
    have htwice : ∀ names ∈ heldOrders ++ missingOrders, names.count "home_token" ≤ 2 := by decide
    exact htwice _ course.names_mem_orders
  of_held core bound learns held := (course.renews_of_held learns held).renewsBy
  of_missing core learns missing := course.entersBy_of_missing learns missing
  of_unknown := course.of_unknown
  of_ok := of_ok
  of_error e core herror learns := by
    rw [herror] at course
    exact course.get?_of_bad learns
  others aamId hne := course.get?_of_ne hne

def withCore {α : Type} (component : Component) (make : AuthorizationCredentials → Int64 → α) :
    WalletExchange α := do
  let core ← component.coreCredentials
  let now ← .lift clock
  return make core now.millis

/-- Whatever is made with the core credentials is made of the entry in the wallet. -/
theorem withCore_lifecycle {α : Type} (make : AuthorizationCredentials → Int64 → α)
    {Made : BoundCredentials → Token → Int64 → α → Prop}
    (made : ∀ bound token millis, Made bound token millis (make (credentialsOf bound token) millis))
    (component : Component) (around : Surroundings) (s : Session) :
    ∃ later, Lifecycle component around s Made later ((component.withCore make).run around s) := by
  obtain ⟨later, hfollows⟩ := component.coreCredentials_follows around s
  refine ⟨later, ?_⟩
  unfold withCore
  rcases hrun : component.coreCredentials.run around s with ⟨e | core, s'⟩
  · rw [hrun] at hfollows
    rw [run_bind_error hrun]
    exact .of_course hfollows.course hfollows.calls_eq (forall_ok_of_error e)
  · rw [hrun] at hfollows
    rw [run_bind_ok hrun, run_bind_ok (run_lift clock around s')]
    refine .of_course hfollows.course hfollows.calls_eq ?_
    obtain ⟨core, bound, token, learns, rfl, hheld, hhome⟩ := hfollows.made _ rfl
    rintro _ ⟨⟩
    exact ⟨core, bound, token, s'.past, learns, hheld, hhome, rfl, made bound token _⟩

/-! ## Requests and responses -/

/-- A request with one token: the home token of an entry, of which possession is proved with the
entry's key and shown with its certificate. -/
structure ProvesToken (bound : BoundCredentials) (token : Token) (millis : Int64)
    (request : SecurityRequest) : Prop where
  timestamp_eq : request.timestamp = millis
  credentials : ∃ sent, request.credentials = [sent] ∧ sent.token = token.text ∧
    sent.challenge = bound.home.key.signText (Proof.challengeHash token.text millis) ∧
    sent.clientCertificate = bound.home.certificate

/-- A response that proves the time with the key of an entry. -/
structure ProvesTime (bound : BoundCredentials) (_token : Token) (millis : Int64)
    (response : String) : Prop where
  proof : ∃ proof : ServiceProof, response = proof.text ∧ proof.timestamp = millis ∧
    proof.hashedTimestamp = Proof.timestampHash millis ∧
    proof.signature = bound.home.key.signText (Proof.timestampHash millis)

/-- **Lifecycle of the core credentials.** Whatever the wallet holds, the AAMs answer and the clocks
show, a component makes its requests and its responses in this way. -/
theorem generate_lifecycle (component : Component) (around : Surroundings) (s : Session) :
    (∃ later, Lifecycle component around s ProvesToken later
      (component.generateRequest.run around s)) ∧
    ∃ later, Lifecycle component around s ProvesTime later
      (component.generateResponse.run around s) := by
  constructor
  · refine withCore_lifecycle (fun core millis => Proof.securityRequest [core] millis) ?_
      component around s
    intro bound token millis
    exact ⟨rfl, _, rfl, rfl, rfl, rfl⟩
  · refine withCore_lifecycle (fun core millis => Proof.serviceResponse core.home.key millis) ?_
      component around s
    intro bound token millis
    exact ⟨_, rfl, rfl, rfl, rfl⟩

end Component

end FederatedAccess
