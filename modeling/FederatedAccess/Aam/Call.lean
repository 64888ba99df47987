import FederatedAccess.Credentials
import FederatedAccess.Token.Validator

/-!
# Calls to AAMs

What a client can ask of an AAM, what it gets for an answer, and how a call can fail. Every call
names the AAM by its address.
-/

namespace FederatedAccess

/-- A request for a certificate, in the name of an account. -/
structure CertificateRequest where
  /-- The account. -/
  username : String
  /-- Its password. -/
  password : String
  /-- The client that the certificate is for. -/
  clientId : String
  /-- The client's public key. -/
  publicKey : Certificate
deriving DecidableEq, Repr

/-- A call to an AAM. -/
inductive Call
  /-- Which AAMs there are. -/
  | availableAams (address : String)
  /-- A home token for a signed request. -/
  | homeToken (address : String) (request : LoginRequest)
  /-- A foreign token for a home token; the certificates are the client's and that of its AAM. -/
  | foreignToken (address : String) (homeToken : Token) (client aam : Certificate)
  /-- A guest token. -/
  | guestToken (address : String)
  /-- A certificate for a client's key. -/
  | clientCertificate (address : String) (request : CertificateRequest)
  /-- The certificate of a component of a platform. -/
  | componentCertificate (address component platform : String)
  /-- Whether a token with its certificates is valid. -/
  | validateCredentials (address token : String) (certificates : CredentialCertificates)
deriving DecidableEq

namespace Call

def name : Call → String
  | availableAams _ => "available_aams"
  | homeToken .. => "home_token"
  | foreignToken .. => "foreign_token"
  | guestToken _ => "guest_token"
  | clientCertificate .. => "client_certificate"
  | componentCertificate .. => "component_certificate"
  | validateCredentials .. => "validate_credentials"

def address : Call → String
  | availableAams a | homeToken a _ | foreignToken a _ _ _ | guestToken a
  | clientCertificate a _ | componentCertificate a _ _ | validateCredentials a _ _ => a

@[reducible] def Answer : Call → Type
  | availableAams _ => Dictionary Aam
  | homeToken .. | foreignToken .. | guestToken _ => Token
  | clientCertificate .. | componentCertificate .. => Certificate
  | validateCredentials .. => ValidationStatus

end Call

/-- Why a call has no answer. -/
inductive CallError
  /-- The AAM was not reached, or the exchange broke off. -/
  | communication (address reason : String)
  /-- The AAM answered with something else than the call asks for. -/
  | unexpectedStatus (address : String) (status : UInt16) (text : String)
  /-- The AAM does not know what it was asked for. -/
  | notFound (what : String)
  /-- The AAM answered with a text that is not a token. -/
  | malformedToken (cause : MalformedToken)
deriving DecidableEq, Repr

def CallError.message : CallError → String
  | communication address reason =>
    "communication with AAM at '" ++ address ++ "' failed: " ++ reason
  | unexpectedStatus address status text =>
    "AAM at '" ++ address ++ "' answered with status " ++ Numeral.ofNat status.toNat ++ ": " ++ text
  | notFound what => "not found: " ++ what
  | malformedToken cause => "AAM returned a malformed token: " ++ cause.message

end FederatedAccess
