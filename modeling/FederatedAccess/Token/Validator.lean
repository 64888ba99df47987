import FederatedAccess.Token.Compact
import FederatedAccess.Key.Document
import FederatedAccess.Time

/-!
# Validating tokens

The status of a token under a key at a time: structure first, then algorithm, key, signature and
end. A token whose signature does not hold is never said to have expired.
-/

namespace FederatedAccess

/-- The outcome of validating a token. -/
inductive ValidationStatus
  /-- Signed by the issuer and not at its end. -/
  | valid
  /-- Signed by the issuer and at its end. -/
  | expired
  /-- Not signed by the issuer. -/
  | invalidTrustChain
  /-- Not settled, because a party could not be asked or answered nonsense. -/
  | unknown
deriving DecidableEq, Repr

namespace ValidationStatus

def name : ValidationStatus → String
  | valid => "VALID"
  | expired => "EXPIRED"
  | invalidTrustChain => "INVALID_TRUST_CHAIN"
  | unknown => "UNKNOWN"

def all : List ValidationStatus := [valid, expired, invalidTrustChain, unknown]

def ofName? (text : String) : Option ValidationStatus :=
  all.find? fun s => s.name = text

def isValid (status : ValidationStatus) : Bool :=
  status = valid

end ValidationStatus

/-- Why a token has no status. -/
inductive ValidationError
  /-- The text is not a token. -/
  | malformed (cause : MalformedToken)
  /-- The header names another algorithm than the accepted one. -/
  | algorithmMismatch (found : String)
  /-- The token's own issuer key is needed and cannot be used. -/
  | issuerKey (cause : KeyError)
deriving DecidableEq, Repr

/-- The only signature algorithm of tokens. -/
def acceptedAlgorithm : String := "EdDSA"

def ValidationError.message : ValidationError → String
  | malformed cause => cause.message
  | algorithmMismatch found =>
    "token signature algorithm was " ++ found ++ " instead of required " ++ acceptedAlgorithm
  | issuerKey cause => "issuer public key is unusable: " ++ cause.message

/-- Validates tokens without asking anyone. -/
structure Validator where
  /-- How long past its end a token is still taken. -/
  leeway : Duration := Duration.zero

namespace Validator

/-- The key to verify with: the given one, else the one in the token. -/
def issuerKey (decoded : DecodedToken) :
    Option Ed25519.PublicKey → Except ValidationError Ed25519.PublicKey
  | some key => .ok key
  | none => (Ed25519.PublicKey.ofWire decoded.claims.issuerKey).mapError .issuerKey

/-- Whether a token's signature holds under a key. -/
def isSignedBy (decoded : DecodedToken) (key : Ed25519.PublicKey) : Bool :=
  key.verifiesStrictly (Utf8.encode decoded.signingInput) decoded.signature

/-- The first second at which a token has expired. -/
def deadline (validator : Validator) (claims : Claims) : Int64 :=
  Time.add claims.expiration (Time.ofNat validator.leeway.seconds.toNat)

/-- The status of a token that is taken apart. -/
def check (validator : Validator) (decoded : DecodedToken) (key : Option Ed25519.PublicKey)
    (now : Int64) : Except ValidationError ValidationStatus := do
  if decoded.header.algorithm ≠ acceptedAlgorithm then
    throw (.algorithmMismatch decoded.header.algorithm)
  let key ← issuerKey decoded key
  if !isSignedBy decoded key then return .invalidTrustChain
  if validator.deadline decoded.claims ≤ now then return .expired
  return .valid

/-- The status of a token under a key, or under its own issuer key when none is given. -/
def validateAt (validator : Validator) (text : String) (key : Option Ed25519.PublicKey)
    (now : Int64) : Except ValidationError ValidationStatus := do
  let decoded ← (DecodedToken.ofText text).mapError .malformed
  validator.check decoded key now

/-- The status of a token under the key that its claims lead to. -/
def validateWith (validator : Validator) (text : String)
    (resolve : Claims → Option Ed25519.PublicKey) (now : Int64) :
    Except ValidationError ValidationStatus := do
  let decoded ← (DecodedToken.ofText text).mapError .malformed
  validator.check decoded (resolve decoded.claims) now

end Validator

end FederatedAccess
