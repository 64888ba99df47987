import FederatedAccess.Handler.Exchange

/-!
# Acquiring credentials

A handler gets certificates and tokens from AAMs. It holds no credentials itself: home tokens and
foreign tokens are put into the caller's wallet, and only once they have been received.
-/

namespace FederatedAccess

/-- Acquires credentials, with the help of a core AAM that knows the others. -/
structure Handler where
  coreAddress : String
deriving DecidableEq, Repr

namespace Handler

open Exchange

/-! ## Looking up -/

def availableAamsVia (address : String) : Exchange (Dictionary Aam) :=
  ask (.availableAams address)

/-- The AAMs that the core AAM knows. -/
def availableAams (handler : Handler) : Exchange (Dictionary Aam) :=
  availableAamsVia handler.coreAddress

/-- The certificate of a component of a platform: the one in the descriptor of the platform's AAM,
else the one that this AAM gives out. -/
def componentCertificate (handler : Handler) (component platform : String) :
    Exchange Certificate := do
  let aams ← handler.availableAams
  match aams.get? platform with
  | none => .fail (.aamUnavailable platform)
  | some aam =>
    match aam.components.get? component with
    | some certificate => return certificate
    | none => ask (.componentCertificate aam.address component platform)

/-- The status of a token, as an AAM sees it. -/
def validate (aam : Aam) (token : String) (certificates : CredentialCertificates) :
    Exchange ValidationStatus :=
  ask (.validateCredentials aam.address token certificates)

/-! ## Logging in -/

/-- Makes a key and has an AAM certify it for a client. -/
def acquireCertificate (aam : Aam) (username password clientId : String) :
    Exchange (Ed25519.SecretKey × Certificate) := do
  let key ← freshKey
  let certificate ← ask (.clientCertificate aam.address
    { username, password, clientId, publicKey := .ofPublicKey key.publicKey })
  return (key, certificate)

/-- Asks the home AAM for a home token. -/
def fetchHomeToken (home : HomeCredentials) : Exchange Token := do
  let now ← clock
  let tokenId ← freshTokenId
  let request ← .ofExcept ((LoginRequest.build home.username home.clientId home.key now.seconds
    tokenId).mapError .issuer)
  ask (.homeToken home.homeAam.address request)

/-- Logs in to an AAM and stores the home token in a new entry of the wallet. -/
def login (aam : Aam) (username clientId : String) (key : Ed25519.SecretKey)
    (certificate : Certificate) : WalletExchange Token := do
  let home : HomeCredentials := { homeAam := aam, username, clientId, certificate, key }
  let token ← .lift (fetchHomeToken home)
  .store { aam, home := { home with token := some token } }
  return token

/-- Gets a new home token with the stored key. Foreign tokens obtained with the old one are
forgotten. -/
def relogin (aamId : String) : WalletExchange Token := do
  match (← WalletExchange.wallet).get? aamId with
  | none => .fail (.notLoggedIn aamId)
  | some bound =>
    let token ← .lift (fetchHomeToken bound.home)
    .replace aamId (bound.refreshed token)
    return token

/-- A guest token. Nothing is stored. -/
def loginAsGuest (aam : Aam) : Exchange Token :=
  ask (.guestToken aam.address)

/-! ## Foreign tokens -/

/-- The foreign token of one AAM: the one in the entry, else a new one, which is kept in the
entry. -/
def foreignToken (homeAamId : String) (bound : BoundCredentials) (homeToken : Token) (aam : Aam) :
    WalletExchange (BoundCredentials × Token) := do
  match bound.foreign.get? aam.id with
  | some token => return (bound, token)
  | none =>
    let token ← .lift (ask (.foreignToken aam.address homeToken bound.home.certificate
      bound.aam.certificate))
    let bound := bound.withForeign aam.id token
    .replace homeAamId bound
    return (bound, token)

/-- The foreign tokens of some AAMs, one after the other, added to those already found. -/
def foreignTokens (homeAamId : String) (bound : BoundCredentials) (homeToken : Token)
    (found : Dictionary Token) : List Aam → WalletExchange (Dictionary Token)
  | [] => return found
  | aam :: rest => do
    let (bound, token) ← foreignToken homeAamId bound homeToken aam
    foreignTokens homeAamId bound homeToken (found.put aam.id token) rest

/-- Foreign tokens obtained with the home token that is held towards an AAM. -/
def loginForeign (homeAamId : String) (aams : List Aam) : WalletExchange (Dictionary Token) := do
  match (← WalletExchange.wallet).get? homeAamId with
  | none => .fail (.notLoggedIn homeAamId)
  | some bound =>
    match bound.home.token with
    | none => .fail (.notLoggedIn homeAamId)
    | some token => foreignTokens homeAamId bound token Catalog.empty aams

end Handler

end FederatedAccess
