import FederatedAccess.Credentials

/-!
# Proofs of possession

The holder of a token signs a hash of the token and the current time with the key that the token
names. A service proves itself by a signed hash of the time alone. Both proofs hold only while the
time is fresh, in either direction.
-/

namespace FederatedAccess

/-- A hash with its signature. -/
structure SignedHash where
  hash : String
  signature : String
deriving DecidableEq, Repr

/-- The proof of possession of some tokens, in their order. -/
structure ApplicationChallenge where
  /-- One signed hash for each token. -/
  signedHashes : List SignedHash
  /-- Milliseconds since the epoch. -/
  timestamp : Int64
deriving DecidableEq

/-- The proof of a service. -/
structure ServiceProof where
  /-- The hash of the time. -/
  hashedTimestamp : String
  /-- Milliseconds since the epoch. -/
  timestamp : Int64
  /-- The signature of the hash's text. -/
  signature : String
deriving DecidableEq

/-- Why a proof could not be checked. -/
inductive ProofError
  /-- A presented text is not a token. -/
  | malformed (cause : MalformedToken)
  /-- The key in a token cannot be used. -/
  | key (cause : KeyError)
  /-- A token that needs a key has none. -/
  | missingSubjectKey (subject : String)
  /-- The proof itself cannot be read. -/
  | malformedProof
deriving DecidableEq, Repr

/-- The wording of an error; where the cause has a reason of its own, it would follow. -/
def ProofError.message : ProofError → String
  | malformed cause => cause.message
  | key cause => cause.message
  | missingSubjectKey subject =>
    "token of subject '" ++ subject ++ "' carries no subject public key"
  | malformedProof => "malformed proof: "

/-! ## Wire forms -/

open Json.Draft

namespace SignedHash

/-- A signed hash as it is read. -/
def ofDraft? (room : Nat) (draft : Json.Draft) : Option SignedHash := do
  match ← draft.record? ["hash", "signature"] false room with
  | [hash, signature] => return ⟨← required text? hash, ← required text? signature⟩
  | _ => none

/-- A signed hash as it is written. -/
def toJson (s : SignedHash) : Json :=
  .object [("hash", .string s.hash), ("signature", .string s.signature)]

end SignedHash

namespace ApplicationChallenge

def ofDraft? (room : Nat) (draft : Json.Draft) : Option ApplicationChallenge := do
  match ← draft.record? ["signedHashes", "timestamp"] false room with
  | [hashes, timestamp] =>
    return ⟨← required (items? (room - 1) (SignedHash.ofDraft? (room - 2))) hashes,
      ← required int64? timestamp⟩
  | _ => none

def toJson (c : ApplicationChallenge) : Json :=
  .object [("signedHashes", .array (c.signedHashes.map SignedHash.toJson)),
    ("timestamp", .integer (.ofInt64 c.timestamp))]

end ApplicationChallenge

namespace ServiceProof

/-- A service proof as it is read. -/
def ofDraft? (room : Nat) (draft : Json.Draft) : Option ServiceProof := do
  match ← draft.record? ["hashedTimestamp", "timestamp", "signature"] false room with
  | [hash, timestamp, signature] =>
    return ⟨← required text? hash, ← required int64? timestamp, ← required text? signature⟩
  | _ => none

/-- A service proof as it is written. -/
def toJson (p : ServiceProof) : Json :=
  .object [("hashedTimestamp", .string p.hashedTimestamp),
    ("timestamp", .integer (.ofInt64 p.timestamp)), ("signature", .string p.signature)]

def ofText? (text : String) : Option ServiceProof := do
  let octets ← Base64.decode? (Text.trim text)
  let draft ← Json.Draft.read octets
  ofDraft? deepest draft

/-- The transport form of a service proof. -/
def text (p : ServiceProof) : String :=
  Base64.encode (Utf8.encode p.toJson.text)

end ServiceProof

/-! ## Building proofs -/

namespace Proof

/-- The text that stands for a token at a time. -/
def challengeText (token : String) (timestamp : Int64) : String :=
  token ++ Numeral.ofInt timestamp.toInt

/-- The hash that proves possession of a token at a time. -/
def challengeHash (token : String) (timestamp : Int64) : String :=
  Sha2.hexOfText (challengeText token timestamp)

/-- The hash that proves a service at a time. -/
def timestampHash (timestamp : Int64) : String :=
  Sha2.hexOfText (Numeral.ofInt timestamp.toInt)

def sign (auth : AuthorizationCredentials) (timestamp : Int64) : SignedHash :=
  let hash := challengeHash auth.token.text timestamp
  ⟨hash, auth.home.key.signText hash⟩

def applicationChallenge (credentials : List AuthorizationCredentials) (timestamp : Int64) :
    ApplicationChallenge :=
  ⟨credentials.map (sign · timestamp), timestamp⟩

def securityRequest (credentials : List AuthorizationCredentials) (timestamp : Int64) :
    SecurityRequest :=
  .ofList (credentials.map fun auth =>
    .ofAuthorization auth (sign auth timestamp).signature) timestamp

/-- The transport form of the proof of a service. -/
def serviceResponse (key : Ed25519.SecretKey) (timestamp : Int64) : String :=
  let hash := timestampHash timestamp
  ServiceProof.text ⟨hash, timestamp, key.signText hash⟩

/-- The key by which the holder of a token signs. -/
def subjectKey (token : Token) : Except ProofError Ed25519.PublicKey :=
  match token.claims.subjectKey with
  | none => .error (.missingSubjectKey token.subject)
  | some wire => (Ed25519.PublicKey.ofWire wire).mapError .key

end Proof

/-! ## Checking proofs -/

/-- Checks proofs against a window of time. -/
structure Authenticator where
  /-- How far a time may lie in the past or in the future. -/
  freshness : Duration := Duration.ofSeconds 3600

namespace Authenticator

/-- Whether a time lies within the window around another. -/
def isFresh (authenticator : Authenticator) (timestamp now : Int64) : Bool :=
  let window := Time.ofNat authenticator.freshness.millis
  let delta := Time.sub now timestamp
  delta < window && -window < delta

/-- Whether every token is proved by its signed hash. -/
def coversTokens (timestamp : Int64) : List Token → List SignedHash → Except ProofError Bool
  | token :: tokens, signed :: rest => do
    let key ← Proof.subjectKey token
    if Proof.challengeHash token.text timestamp = signed.hash ∧
        key.verifiesText signed.hash signed.signature then
      coversTokens timestamp tokens rest
    else return false
  | _, _ => return true

/-- Whether a challenge is fresh and proves possession of all the tokens, in their order. -/
def verifyChallenge (authenticator : Authenticator) (tokens : List Token)
    (challenge : ApplicationChallenge) (now : Int64) : Except ProofError Bool :=
  if tokens.length ≠ challenge.signedHashes.length then .ok false
  else if !authenticator.isFresh challenge.timestamp now then .ok false
  else coversTokens challenge.timestamp tokens challenge.signedHashes

/-- Whether credentials prove possession of their token; guests need no proof. -/
def provesPossession (timestamp : Int64) (credentials : SecurityCredentials) :
    Except ProofError Bool := do
  let token ← (Token.parse credentials.token).mapError .malformed
  if token.tokenType = .guest then return true
  let key ← Proof.subjectKey token
  return key.verifiesText (Proof.challengeHash token.text timestamp) credentials.challenge

/-- Whether all credentials prove possession, up to the first that does not. -/
def allProve (timestamp : Int64) : List SecurityCredentials → Except ProofError Bool
  | [] => return true
  | c :: rest => do
    if ← provesPossession timestamp c then allProve timestamp rest else return false

/-- Whether a request is fresh and proves possession of every token. -/
def verifyRequest (authenticator : Authenticator) (request : SecurityRequest) (now : Int64) :
    Except ProofError Bool :=
  if authenticator.isFresh request.timestamp now then
    allProve request.timestamp request.credentials
  else .ok false

/-- Whether a response is signed by the service and fresh. -/
def verifyResponse (authenticator : Authenticator) (response : String)
    (key : Ed25519.PublicKey) (now : Int64) : Except ProofError Bool :=
  match ServiceProof.ofText? response with
  | none => .error .malformedProof
  | some proof =>
    .ok (key.verifiesText proof.hashedTimestamp proof.signature &&
      Proof.timestampHash proof.timestamp = proof.hashedTimestamp &&
      authenticator.isFresh proof.timestamp now)

end Authenticator

end FederatedAccess
