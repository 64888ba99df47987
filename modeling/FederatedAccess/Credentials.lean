import FederatedAccess.Aam
import FederatedAccess.Distinct
import FederatedAccess.Token.Issuer

/-!
# Credentials

What a caller sends with a request (`SecurityCredentials`, `SecurityRequest`) and what it keeps to
prove that the sent tokens are its own (`HomeCredentials`, `AuthorizationCredentials`).
-/

namespace FederatedAccess

/-! ## What is kept -/

/-- What a user or component holds towards its home AAM. -/
structure HomeCredentials where
  /-- The home AAM. -/
  homeAam : Aam
  /-- The account. -/
  username : String
  /-- The client of the account. -/
  clientId : String
  /-- The client's certificate. -/
  certificate : Certificate
  /-- The client's key. -/
  key : Ed25519.SecretKey
  /-- The home token, when there is one. -/
  token : Option Token := none

/-- A token with the credentials that prove its possession. -/
structure AuthorizationCredentials where
  token : Token
  aam : Aam
  home : HomeCredentials

/-! ## What is sent -/

/-- A presented token, the proof of its possession, and the certificates that a receiver may
need. -/
structure SecurityCredentials where
  /-- The token. -/
  token : String
  /-- The proof; empty until signed. -/
  challenge : String := ""
  /-- The certificate of the client. -/
  clientCertificate : Certificate := {}
  /-- The certificate of the AAM that signed the client's. -/
  signingCertificate : Certificate := {}
  /-- The certificate of the AAM that issued a foreign token. -/
  foreignCertificate : Certificate := {}
deriving DecidableEq, Repr

namespace SecurityCredentials

/-- Credentials with a token alone. -/
def ofToken (token : String) : SecurityCredentials where
  token := token

/-- The credentials that go with a proof. Only foreign tokens name the certificate of their
issuer. -/
def ofAuthorization (auth : AuthorizationCredentials) (challenge : String) :
    SecurityCredentials where
  token := auth.token.text
  challenge := challenge
  clientCertificate := auth.home.certificate
  signingCertificate := auth.home.homeAam.certificate
  foreignCertificate := if auth.token.tokenType = .foreign then auth.aam.certificate else {}

open Json.Draft in
def ofDraft? (room : Nat) (draft : Json.Draft) : Option SecurityCredentials := do
  match ← draft.record? ["token", "authenticationChallenge", "clientCertificate",
    "clientCertificateSigningAAMCertificate", "foreignTokenIssuingAAMCertificate"] false room with
  | [token, challenge, client, signing, foreign] =>
    return {
      token := ← required text? token
      challenge := ← defaulted "" text? challenge
      clientCertificate := ← defaulted {} Certificate.ofDraft? client
      signingCertificate := ← defaulted {} Certificate.ofDraft? signing
      foreignCertificate := ← defaulted {} Certificate.ofDraft? foreign }
  | _ => none

def toJson (c : SecurityCredentials) : Json :=
  .object [("token", .string c.token), ("authenticationChallenge", .string c.challenge),
    ("clientCertificate", c.clientCertificate.toJson),
    ("clientCertificateSigningAAMCertificate", c.signingCertificate.toJson),
    ("foreignTokenIssuingAAMCertificate", c.foreignCertificate.toJson)]

end SecurityCredentials

/-- The certificates that go with a token to a remote validation. -/
structure CredentialCertificates where
  /-- The certificate of the client. -/
  client : Certificate := {}
  /-- The certificate of the AAM that signed the client's. -/
  signing : Certificate := {}
  /-- The certificate of the AAM that issued a foreign token. -/
  foreign : Certificate := {}
deriving DecidableEq, Repr

namespace CredentialCertificates

/-- The certificates of presented credentials. -/
def ofCredentials (c : SecurityCredentials) : CredentialCertificates :=
  ⟨c.clientCertificate, c.signingCertificate, c.foreignCertificate⟩

open Json.Draft in
def ofDraft? (room : Nat) (draft : Json.Draft) : Option CredentialCertificates := do
  match ← draft.record? ["clientCertificate", "clientCertificateSigningAAMCertificate",
    "foreignTokenIssuingAAMCertificate"] false room with
  | [client, signing, foreign] =>
    return {
      client := ← defaulted {} Certificate.ofDraft? client
      signing := ← defaulted {} Certificate.ofDraft? signing
      foreign := ← defaulted {} Certificate.ofDraft? foreign }
  | _ => none

def toJson (c : CredentialCertificates) : Json :=
  .object [("clientCertificate", c.client.toJson),
    ("clientCertificateSigningAAMCertificate", c.signing.toJson),
    ("foreignTokenIssuingAAMCertificate", c.foreign.toJson)]

end CredentialCertificates

/-! ## Requests -/

/-- The envelope of one call: distinct credentials under one time. The order of the list is the
order in which they are looked at. -/
structure SecurityRequest where
  /-- The credentials. -/
  credentials : List SecurityCredentials
  /-- Milliseconds since the epoch. -/
  timestamp : Int64
  /-- No credentials are repeated. -/
  nodup : credentials.Nodup

namespace SecurityRequest

/-- The request of a list of credentials, in which equal ones count once. -/
def ofList (credentials : List SecurityCredentials) (timestamp : Int64) : SecurityRequest where
  credentials := distinct credentials
  timestamp := timestamp
  nodup := nodup_distinct credentials

/-- The request with a guest token and no proof. -/
def guest (token : Token) (timestamp : Int64) : SecurityRequest :=
  ofList [.ofToken token.text] timestamp

open Json.Draft in
def ofDraft? (room : Nat) (draft : Json.Draft) : Option SecurityRequest := do
  match ← draft.record? ["securityCredentials", "timestamp"] false room with
  | [credentials, timestamp] =>
    let found ← required (items? (room - 1) (SecurityCredentials.ofDraft? (room - 2))) credentials
    return ofList found (← required int64? timestamp)
  | _ => none

def toJson (request : SecurityRequest) : Json :=
  .object [("securityCredentials", .array (request.credentials.map SecurityCredentials.toJson)),
    ("timestamp", .integer (.ofInt64 request.timestamp))]

end SecurityRequest

end FederatedAccess
