import FederatedAccess.Component.OfflineValidation
import FederatedAccess.Handler

/-!
# Components

A component checks the requests that it receives, tells which resources they open, and makes
requests and responses of its own. A request counts only when all its tokens are proved and valid. A
resource is opened only by credentials that are valid one by one.
-/

namespace FederatedAccess

/-! ## Names -/

/-- Whether a text is the name of a component and that of its platform, with one `@` between
them. -/
def isComponentId (text : String) : Bool :=
  match text.toList.span (· ≠ '@') with
  | (component, _ :: platform) =>
    !component.isEmpty && !platform.isEmpty && !platform.contains '@'
  | (_, []) => false

def coreAamId : String := "SymbIoTe_Core_AAM"

/-- A component of a platform. -/
structure Component where
  handler : Handler
  configuration : Configuration
  named : isComponentId configuration.componentId

namespace Component

def ofConfiguration (configuration : Configuration) (handler : Handler) :
    Except HandlerError Component :=
  if named : isComponentId configuration.componentId then .ok ⟨handler, configuration, named⟩
  else .error (.invalidComponentId configuration.componentId)

/-- The AAM of the component's own platform, of which only the address is known. -/
def localAam (component : Component) : Aam where
  id := ""
  address := component.configuration.localAddress
  certificate := {}

open Exchange

/-! ## Received requests -/

/-- The AAMs that the status of tokens is told by. -/
def knownAams (component : Component) : Exchange (Dictionary Aam) :=
  if component.configuration.alwaysLocal ∧ component.configuration.validationMode = .remote then
    return Catalog.empty
  else Handler.availableAamsVia component.localAam.address

/-- The AAM that is asked about a token: its issuer if that is known, else the local one. -/
def validatingAam (component : Component) (aams : Dictionary Aam) (token : Token) : Aam :=
  (aams.get? token.issuer).getD component.localAam

/-- The status of one token that is proved. -/
def tokenStatus (component : Component) (aams : Dictionary Aam)
    (credentials : SecurityCredentials) : Exchange ValidationStatus := do
  let token ← .ofExcept ((Token.parse credentials.token).mapError .malformedToken)
  match component.configuration.validationMode with
  | .remote =>
    Handler.validate (component.validatingAam aams token) token.text (.ofCredentials credentials)
  | .offline =>
    let now ← clock
    .ofExcept ((component.configuration.validator.offlineStatus aams
      component.configuration.trustEmbeddedKeys token credentials now.seconds).mapError .validation)

/-- The first status other than valid. -/
def firstStatus (component : Component) (aams : Dictionary Aam) :
    List SecurityCredentials → Exchange ValidationStatus
  | [] => return .valid
  | credentials :: rest => do
    let status ← component.tokenStatus aams credentials
    if status.isValid then component.firstStatus aams rest else return status

/-- The status of a request: whether it is fresh, proves possession of every token, and every token
is valid. -/
def requestStatus (component : Component) (request : SecurityRequest) :
    Exchange ValidationStatus := do
  let now ← clock
  let proved ← .ofExcept ((component.configuration.authenticator.verifyRequest request
    now.millis).mapError .proof)
  if proved then
    let aams ← component.knownAams
    component.firstStatus aams request.credentials
  else return .invalidTrustChain

/-! ## Opened resources -/

/-- The status of one of the credentials of a request on its own. Where there is none, it is
unknown. -/
def singleStatus (component : Component) (timestamp : Int64) (credentials : SecurityCredentials) :
    Exchange ValidationStatus :=
  .withDefault .unknown (component.requestStatus (.ofList [credentials] timestamp))

/-- The statuses that have been found. -/
abbrev Statuses := List (SecurityCredentials × ValidationStatus)

/-- The status of credentials, which is found only once. -/
def statusOnce (component : Component) (timestamp : Int64) (found : Statuses)
    (credentials : SecurityCredentials) : Exchange (ValidationStatus × Statuses) := do
  match found.lookup credentials with
  | some status => return (status, found)
  | none =>
    let status ← component.singleStatus timestamp credentials
    return (status, (credentials, status) :: found)

/-- Whether all credentials are valid, up to the first that is not. -/
def allValid (component : Component) (timestamp : Int64) (found : Statuses) :
    List SecurityCredentials → Exchange (Bool × Statuses)
  | [] => return (true, found)
  | credentials :: rest => do
    let (status, found) ← component.statusOnce timestamp found credentials
    if status.isValid then component.allValid timestamp found rest else return (false, found)

/-- The resources of which all credentials are valid, in the given order, and the statuses found on
the way. -/
def grantFrom (component : Component) (timestamp : Int64) (found : Statuses) :
    List (String × List SecurityCredentials) → Exchange (List String × Statuses)
  | [] => return ([], found)
  | (resource, credentials) :: rest => do
    let (valid, found) ← component.allValid timestamp found credentials
    let (granted, found) ← component.grantFrom timestamp found rest
    return (if valid then resource :: granted else granted, found)

/-- The resources of which all credentials are valid. -/
def grant (component : Component) (timestamp : Int64)
    (resolved : List (String × List SecurityCredentials)) : Exchange TextSet := do
  let (granted, _) ← component.grantFrom timestamp [] resolved
  return Catalog.ofList granted

/-- The resources that a request opens with valid credentials, looked at in some order. -/
def satisfiedPoliciesIn [Pattern.SizeLimit] (component : Component) (order : VisitingOrder)
    (policies : ResourcePolicies) (request : SecurityRequest) : Exchange TextSet := do
  let resolved ← .ofExcept ((request.resolve policies).mapError .resolution)
  component.grant request.timestamp (order.visit resolved)

/-- The resources that a request opens with valid credentials. -/
def satisfiedPolicies [Pattern.SizeLimit] (component : Component) (policies : ResourcePolicies)
    (request : SecurityRequest) : Exchange TextSet :=
  component.satisfiedPoliciesIn .byName policies request

/-! ## The component's own credentials -/

/-- Whether a home token is valid under the certificate of the AAM; without a usable certificate,
under the key in the token. -/
def isUsable (component : Component) (token : Token) (aam : Aam) (now : Int64) : Bool :=
  component.configuration.validator.validateAt token.text aam.certificate.publicKey.toOption now
    matches .ok .valid

/-- Logs in to the core AAM with a new key, unless the wallet holds something towards it. -/
def ensureLogin (component : Component) (core : Aam) : WalletExchange Unit := do
  if ((← WalletExchange.wallet).get? core.id).isNone then
    let username := component.configuration.ownerUsername
    let clientId := component.configuration.componentId
    let (key, certificate) ← .lift (Handler.acquireCertificate core username
      component.configuration.ownerPassword clientId)
    discard (Handler.login core username clientId key certificate)

/-- The core home token in the wallet if it is usable, else a new one. -/
def coreToken (component : Component) (core : Aam) : WalletExchange Token := do
  let now ← .lift clock
  match (← WalletExchange.wallet).homeToken? core.id with
  | some token =>
    if component.isUsable token core now.seconds then return token else Handler.relogin core.id
  | none => Handler.relogin core.id

/-- A usable token of the core AAM with the credentials that prove its possession. -/
def coreCredentials (component : Component) : WalletExchange AuthorizationCredentials := do
  let aams ← .lift (Handler.availableAamsVia component.localAam.address)
  match aams.get? coreAamId with
  | none => .fail (.aamUnavailable coreAamId)
  | some core =>
    component.ensureLogin core
    let token ← component.coreToken core
    match (← WalletExchange.wallet).get? core.id with
    | some bound => return ⟨token, bound.aam, bound.home⟩
    | none => .fail (.notLoggedIn core.id)

/-- A request with the component's core token. -/
def generateRequest (component : Component) : WalletExchange SecurityRequest := do
  let core ← component.coreCredentials
  let now ← .lift clock
  return Proof.securityRequest [core] now.millis

/-- A response that proves who the component is. -/
def generateResponse (component : Component) : WalletExchange String := do
  let core ← component.coreCredentials
  let now ← .lift clock
  return Proof.serviceResponse core.home.key now.millis

/-! ## Received responses -/

/-- Whether a response is signed by a component of a platform, and fresh. -/
def verifiesResponse (component : Component) (response sender platform : String) :
    Exchange Bool := do
  let certificate ← component.handler.componentCertificate sender platform
  let key ← .ofExcept (certificate.publicKey.mapError .key)
  let now ← clock
  .ofExcept ((component.configuration.authenticator.verifyResponse response key
    now.millis).mapError .proof)

end Component

end FederatedAccess
