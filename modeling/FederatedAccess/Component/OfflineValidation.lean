import FederatedAccess.Credentials
import FederatedAccess.Token.Validator

/-!
# Validation without asking an AAM

The key of a token's issuer comes from the certificates of the known AAMs. A client certificate that
comes with the token must hold the key that the token names.
-/

namespace FederatedAccess

namespace OfflineValidation

/-- Where the key comes from that a token is verified with. -/
inductive TrustedKey
  /-- From the certificate of a known AAM. -/
  | known (key : Ed25519.PublicKey)
  /-- From the token itself. -/
  | embedded
  /-- From nowhere: no AAM of that name, or one without a usable certificate. -/
  | untrusted
deriving DecidableEq

/-- The key of a token's issuer. A known AAM with an unusable certificate is never passed over for
the key in the token. -/
def trustedKey (aams : Dictionary Aam) (trustEmbedded : Bool) (token : Token) : TrustedKey :=
  match aams.get? token.issuer with
  | some aam =>
    match aam.certificate.publicKey with
    | .ok key => .known key
    | .error _ => .untrusted
  | none => if trustEmbedded then .embedded else .untrusted

/-- Whether the client certificate holds the key that the token names. Guest tokens and tokens that
name no key are bound to nothing. -/
def isBound (token : Token) (credentials : SecurityCredentials) : Bool :=
  if token.tokenType = .guest then true
  else
    match token.claims.subjectKey with
    | none => true
    | some wire =>
      if credentials.clientCertificate.isEmpty then false
      else
        match Ed25519.PublicKey.ofWire wire, credentials.clientCertificate.publicKey with
        | .ok subjectKey, .ok certified => subjectKey = certified
        | _, _ => false

end OfflineValidation

open OfflineValidation in
/-- The status of a token as far as it can be told without asking an AAM. -/
def Validator.offlineStatus (validator : Validator) (aams : Dictionary Aam) (trustEmbedded : Bool)
    (token : Token) (credentials : SecurityCredentials) (now : Int64) :
    Except ValidationError ValidationStatus := do
  let status ←
    match trustedKey aams trustEmbedded token with
    | .known key => validator.validateAt token.text (some key) now
    | .embedded => validator.validateAt token.text none now
    | .untrusted => pure .invalidTrustChain
  if status.isValid && !isBound token credentials then return .invalidTrustChain
  return status

end FederatedAccess
