import FederatedAccess.Token.Validator

/-!
# Issuing tokens

An issuer signs claims with its key. Foreign tokens take over what a home token says and add the
federations of the issuer; a login request is a token that a client issues to itself.
-/

namespace FederatedAccess

/-- Why a token was not issued. -/
inductive IssuerError
  /-- The validity in seconds does not fit into a claim. -/
  | validity (seconds : UInt64)
deriving DecidableEq, Repr

def IssuerError.message : IssuerError → String
  | validity seconds =>
    "token validity of " ++ Numeral.ofNat seconds.toNat ++ "s does not fit the expiration claim"

/-! ## Names of tokens -/

namespace TokenId

/-- Groups of octets with a dash between them. -/
def dashed : List Nat → List UInt8 → List Char
  | [], _ => []
  | [n], octets => Hex.encodeChars (octets.take n)
  | n :: groups, octets => Hex.encodeChars (octets.take n) ++ '-' :: dashed groups (octets.drop n)

/-- The lengths of the groups in octets. -/
def groups : List Nat := [4, 2, 2, 2, 6]

/-- The random name made from sixteen octets, six bits of which are fixed. -/
def ofOctets (octets : List UInt8) : String :=
  let marked := octets.zipIdx.map fun entry =>
    if entry.2 = 6 then entry.1 &&& 0x0F ||| 0x40
    else if entry.2 = 8 then entry.1 &&& 0x3F ||| 0x80
    else entry.1
  String.ofList (dashed groups marked)

/-- Whether a text is the name made from some sixteen octets. -/
def isRandom (text : String) : Bool :=
  match Hex.decode? (String.ofList (text.toList.filter (· ≠ '-'))) with
  | some octets => octets.length = 16 && ofOctets octets = text
  | none => false

end TokenId

/-! ## Issuers -/

/-- What to put into a new token. -/
structure TokenRequest where
  subject : String
  tokenType : TokenType
  subjectKey : Option Ed25519.PublicKey := none
  attributes : Dictionary String := Catalog.empty
  validity : Duration

/-- Signs tokens in one name. -/
structure TokenIssuer where
  name : String
  key : Ed25519.SecretKey

namespace TokenIssuer

def header : Json :=
  .object [("typ", .string "JWT"), ("alg", .string acceptedAlgorithm)]

def signClaims (issuer : TokenIssuer) (claims : Claims) : String :=
  let input := signingInput header (.object claims.toBody.toList)
  attachSignature input (issuer.key.sign (Utf8.encode input))

/-- The end of a token issued at a time. -/
def expiration (validity : Duration) (issuedAt : Int64) : Except IssuerError Int64 :=
  if validity.seconds.toNat < 0x8000000000000000 then
    .ok (Time.add issuedAt (Time.ofNat validity.seconds.toNat))
  else .error (.validity validity.seconds)

def claimsAt (issuer : TokenIssuer) (request : TokenRequest) (issuedAt : Int64)
    (tokenId : String) : Except IssuerError Claims := do
  let expiration ← expiration request.validity issuedAt
  return {
    issuer := issuer.name
    subject := request.subject
    expiration
    issuedAt := some issuedAt
    tokenId := some tokenId
    issuerKey := issuer.key.publicKey.wire
    subjectKey := request.subjectKey.map (·.wire)
    tokenType := request.tokenType
    attributes := request.attributes
    extra := Catalog.empty }

def issueAt (issuer : TokenIssuer) (request : TokenRequest) (issuedAt : Int64)
    (tokenId : String) : Except IssuerError String := do
  return issuer.signClaims (← issuer.claimsAt request issuedAt tokenId)

/-- The start of the attributes that name federations. -/
def federationPrefix : String := "federation_"

/-- The attributes of a home token with those that name the federations, counted from one. -/
def withFederations (attributes : Dictionary String) (federations : List String) :
    Dictionary String :=
  federations.zipIdx.foldl
    (fun found entry => found.put (federationPrefix ++ Numeral.ofNat (entry.2 + 1)) entry.1)
    attributes

/-- The claims of a foreign token: subject, its key and attributes carry over. -/
def foreignClaims (issuer : TokenIssuer) (home : Token) (federations : List String)
    (validity : Duration) (now : Int64) (tokenId : String) : Except IssuerError Claims := do
  let expiration ← expiration validity now
  return {
    issuer := issuer.name
    subject := home.subject
    expiration
    issuedAt := some now
    tokenId := some tokenId
    issuerKey := issuer.key.publicKey.wire
    subjectKey := home.claims.subjectKey
    tokenType := .foreign
    attributes := withFederations home.claims.attributes federations
    extra := Catalog.empty }

/-- Exchanges a home token for a foreign token. -/
def foreignToken (issuer : TokenIssuer) (home : Token) (federations : List String)
    (validity : Duration) (now : Int64) (tokenId : String) : Except IssuerError String := do
  return issuer.signClaims (← issuer.foreignClaims home federations validity now tokenId)

/-- Issues a token without identity. -/
def guestToken (issuer : TokenIssuer) (validity : Duration) (now : Int64) (tokenId : String) :
    Except IssuerError String :=
  issuer.issueAt { subject := "guest", tokenType := .guest, validity } now tokenId

end TokenIssuer

/-! ## Login requests -/

/-- A short-lived token that a client signs to ask for a home token. -/
structure LoginRequest where
  text : String
deriving DecidableEq, Repr

namespace LoginRequest

def validity : Duration := Duration.ofSeconds 60

/-- The request of a client: the user name is the issuer and the client the subject. -/
def build (username clientId : String) (key : Ed25519.SecretKey) (now : Int64)
    (tokenId : String) : Except IssuerError LoginRequest := do
  let issuer : TokenIssuer := ⟨username, key⟩
  return ⟨← issuer.issueAt { subject := clientId, tokenType := .null, validity } now tokenId⟩

/-- What a request says; `none` when its text is not a token. -/
def claims? (request : LoginRequest) : Option Claims :=
  (DecodedToken.ofText request.text).toOption.map (·.claims)

end LoginRequest

end FederatedAccess
