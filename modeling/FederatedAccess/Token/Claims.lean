import FederatedAccess.Json.Record

/-!
# Claims

What a token says. The body of a token is one JSON object; `Claims.ofBody` sorts its members into
registered claims, attributes and the rest, and `Claims.toBody` puts them together again. An
attribute's member carries a reserved start in its name, which is taken off exactly once.
-/

namespace FederatedAccess

/-- What kind of access a token gives. -/
inductive TokenType
  /-- Issued by the holder's own platform. -/
  | home
  /-- Issued by another platform in exchange for a home token. -/
  | foreign
  /-- Without identity. -/
  | guest
  /-- None of these; requests that a client signs itself. -/
  | null
deriving DecidableEq, Repr

/-- The parts of a compact token. -/
inductive Segment
  | header
  | body
  | signature
deriving DecidableEq, Repr

def Segment.name : Segment → String
  | header => "header"
  | body => "body"
  | signature => "signature"

/-- Why a text is not a token. -/
inductive MalformedToken
  /-- The text does not consist of three segments. -/
  | segmentCount (found : Nat)
  /-- A segment is not base64. -/
  | base64 (segment : Segment)
  /-- A segment is not the JSON object it must be. -/
  | json (segment : Segment)
  /-- A claim that every token has is absent. -/
  | missingClaim (claim : String)
  /-- A claim has a value that it cannot have. -/
  | invalidClaim (claim reason : String)
deriving DecidableEq, Repr

/-- The wording of an error; where the cause has a reason of its own, it would follow. -/
def MalformedToken.message : MalformedToken → String
  | segmentCount found =>
    "token must have 3 dot-separated segments, found " ++ Numeral.ofNat found
  | base64 segment => segment.name ++ " segment is not valid base64url: "
  | json segment => segment.name ++ " segment is not a JSON object: "
  | missingClaim claim => "required claim '" ++ claim ++ "' is missing"
  | invalidClaim claim reason => "claim '" ++ claim ++ "' is invalid: " ++ reason

namespace TokenType

/-- The name of a type in a token. -/
def name : TokenType → String
  | home => "HOME"
  | foreign => "FOREIGN"
  | guest => "GUEST"
  | null => "NULL"

def all : List TokenType := [home, foreign, guest, null]

def ofName? (text : String) : Option TokenType :=
  all.find? fun t => t.name = text

def ofClaim (text : String) : Except MalformedToken TokenType :=
  match ofName? text with
  | some t => .ok t
  | none => .error (.invalidClaim "ttyp" ("unknown token type '" ++ text ++ "'"))

instance : Inhabited TokenType := ⟨null⟩

end TokenType

/-- The start of every attribute's name in a token body. -/
def attributePrefix : String := "SYMBIOTE_"

/-- A name without the reserved start, if it has it. -/
def withoutPrefix? (name : String) : Option String :=
  if attributePrefix.toList.isPrefixOf name.toList then
    some (String.ofList (name.toList.drop attributePrefix.toList.length))
  else none

/-- What a token says. -/
structure Claims where
  /-- Who issued the token. -/
  issuer : String
  /-- Whom it speaks of. -/
  subject : String
  /-- When it ends, in seconds since the epoch. -/
  expiration : Int64
  /-- When it was issued. -/
  issuedAt : Option Int64
  /-- Its own name. -/
  tokenId : Option String
  /-- The wire form of the issuer's public key. -/
  issuerKey : String
  /-- The wire form of the subject's public key; guests have none. -/
  subjectKey : Option String
  /-- What kind of access it gives. -/
  tokenType : TokenType
  /-- Attributes, under names without the reserved start. -/
  attributes : Dictionary String
  /-- All other members of the body. -/
  extra : Dictionary Json

namespace Claims

/-- The value of an attribute; the reserved start of its name may be given or not. -/
def attribute? (claims : Claims) (name : String) : Option String :=
  claims.attributes.get? ((withoutPrefix? name).getD name)

/-! ## From a body -/

/-- Attributes and other members apart, in the order of the body's names. -/
def split (members : List (String × Json)) :
    Except MalformedToken (Dictionary String × Dictionary Json) :=
  members.foldlM (fun (found : Dictionary String × Dictionary Json) member =>
    match withoutPrefix? member.1 with
    | none => .ok (found.1, found.2.put member.1 member.2)
    | some name =>
      match member.2 with
      | .string value => .ok (found.1.put name value, found.2)
      | _ => .error (.invalidClaim member.1 "attribute values must be strings"))
    (Catalog.empty, Catalog.empty)

/-- A text claim; `null` counts as absent. -/
def text? (members : Dictionary Json) (claim : String) :
    Except MalformedToken (Option String) :=
  match members.get? claim with
  | none | some .null => .ok none
  | some (.string s) => .ok (some s)
  | some _ => .error (.invalidClaim claim "expected a string")

/-- A claim of whole seconds, as an integer or as its text; `null` counts as absent. -/
def seconds? (members : Dictionary Json) (claim : String) :
    Except MalformedToken (Option Int64) :=
  let found : Option (Option Int64) :=
    match members.get? claim with
    | none | some .null => some none
    | some (.integer i) => i.int64?.map some
    | some (.string s) => (Numeral.int64? s.toList).map some
    | some _ => none
  match found with
  | some value => .ok value
  | none => .error (.invalidClaim claim "expected whole seconds")

def present {α : Type} (claim : String) : Option α → Except MalformedToken α
  | some value => .ok value
  | none => .error (.missingClaim claim)

def registered : List String :=
  ["iss", "sub", "exp", "iat", "jti", "ipk", "spk", "ttyp"]

def ofBody (members : List (String × Json)) : Except MalformedToken Claims := do
  let (attributes, others) ← split members
  let issuer ← present "iss" (← text? others "iss")
  let subject ← present "sub" (← text? others "sub")
  let expiration ← present "exp" (← seconds? others "exp")
  let issuerKey ← present "ipk" (← text? others "ipk")
  let tokenType ← TokenType.ofClaim (← present "ttyp" (← text? others "ttyp"))
  let issuedAt ← seconds? others "iat"
  let tokenId ← text? others "jti"
  let subjectKey ← text? others "spk"
  return {
    issuer, subject, expiration, issuedAt, tokenId, issuerKey, subjectKey, tokenType, attributes,
    extra := others.filter fun entry => !registered.contains entry.1 }

/-! ## To a body -/

/-- Adds a member that may be absent. -/
def putSome (body : Dictionary Json) (name : String) : Option Json → Dictionary Json
  | some value => body.put name value
  | none => body

/-- The body of the claims. Registered claims overwrite others of the same name, and attributes
overwrite both. -/
def toBody (claims : Claims) : Dictionary Json :=
  let body := claims.extra.put "iss" (.string claims.issuer)
  let body := body.put "sub" (.string claims.subject)
  let body := body.put "exp" (.integer (.ofInt64 claims.expiration))
  let body := putSome body "iat" (claims.issuedAt.map fun s => .integer (.ofInt64 s))
  let body := putSome body "jti" (claims.tokenId.map .string)
  let body := body.put "ipk" (.string claims.issuerKey)
  let body := putSome body "spk" (claims.subjectKey.map .string)
  let body := body.put "ttyp" (.string claims.tokenType.name)
  claims.attributes.toList.foldl
    (fun body entry => body.put (attributePrefix ++ entry.1) (.string entry.2)) body

/-- Equality of claims, with numbers in other members compared as numbers. -/
def same (a b : Claims) : Bool :=
  a.issuer = b.issuer && a.subject = b.subject && a.expiration = b.expiration &&
    a.issuedAt = b.issuedAt && a.tokenId = b.tokenId && a.issuerKey = b.issuerKey &&
    a.subjectKey = b.subjectKey && a.tokenType = b.tokenType &&
    a.attributes.toList = b.attributes.toList &&
    Json.beqMembers a.extra.toList b.extra.toList

end Claims

end FederatedAccess
