import FederatedAccess.Token.Claims
import FederatedAccess.Encoding.Base64
import FederatedAccess.Text.Blank

/-!
# Compact tokens

The text of a token: three segments of base64 between dots, which are the header, the body and the
signature of the first two as they stand. Decoding settles the structure only. It looks at neither
signature nor time.
-/

namespace FederatedAccess

/-- The header of a token. Only the algorithm has a meaning. -/
structure TokenHeader where
  algorithm : String
  kind : Option String
deriving DecidableEq, Repr

namespace TokenHeader

def ofDraft? (room : Nat) (draft : Json.Draft) : Option TokenHeader := do
  match ← draft.record? ["alg", "typ"] false room with
  | [algorithm, kind] =>
    some ⟨← Json.Draft.required Json.Draft.text? algorithm,
      ← Json.Draft.defaulted none Json.Draft.optionalText? kind⟩
  | _ => none

def toJson (header : TokenHeader) : Json :=
  .compact [some ("alg", .string header.algorithm), header.kind.map fun k => ("typ", .string k)]

end TokenHeader

/-- A token taken apart. -/
structure DecodedToken where
  /-- The header. -/
  header : TokenHeader
  /-- What the token says. -/
  claims : Claims
  /-- Header and body as they stand in the text, which is what is signed. -/
  signingInput : String
  /-- The octets of the signature. -/
  signature : List UInt8

namespace DecodedToken

def splitDots : List Char → List (List Char)
  | [] => [[]]
  | c :: rest =>
    match splitDots rest with
    | [] => [[c]]
    | part :: parts => if c = '.' then [] :: part :: parts else (c :: part) :: parts

def octets (segment : Segment) (chars : List Char) : Except MalformedToken (List UInt8) :=
  match Base64.decodeChars Base64.urlSafe .optional chars with
  | some found => .ok found
  | none => .error (.base64 segment)

def readHeader (input : List UInt8) : Except MalformedToken TokenHeader :=
  match (Json.Draft.read input).bind (TokenHeader.ofDraft? Json.Draft.deepest) with
  | some header => .ok header
  | none => .error (.json .header)

def readBody (input : List UInt8) : Except MalformedToken (List (String × Json)) :=
  match Json.parse? input with
  | some (.object members) => .ok members
  | _ => .error (.json .body)

/-- Takes apart the segments of a token. -/
def ofSegments (header body signature : List Char) : Except MalformedToken DecodedToken := do
  let head ← readHeader (← octets .header header)
  let members ← readBody (← octets .body body)
  let signed ← octets .signature signature
  let claims ← Claims.ofBody members
  return ⟨head, claims, String.ofList (header ++ '.' :: body), signed⟩

/-- Takes a token apart. Blank characters around it do not count. -/
def ofText (text : String) : Except MalformedToken DecodedToken :=
  match splitDots (Text.trimChars text.toList) with
  | [header, body, signature] => ofSegments header body signature
  | parts => .error (.segmentCount parts.length)

end DecodedToken

/-! ## Writing -/

/-- The base64 form of a JSON value's text. -/
def segmentText (value : Json) : String :=
  Base64.encodeUrl (Utf8.encode value.text)

/-- Header and body of a token as they are signed. -/
def signingInput (header claims : Json) : String :=
  segmentText header ++ "." ++ segmentText claims

/-- Header and body of a token with the given header and claims. -/
def encodeToken (header : TokenHeader) (claims : Claims) : String :=
  signingInput header.toJson (.object claims.toBody.toList)

/-- The compact token of a signing input and a signature of it. -/
def attachSignature (input : String) (signature : List UInt8) : String :=
  input ++ "." ++ Base64.encodeUrl signature

/-! ## Tokens -/

/-- A token: a text that can be taken apart, with what it says. Holding one says nothing about its
validity. -/
structure Token where
  /-- The compact text, without blank characters around it. -/
  text : String
  /-- The parts of the text. -/
  decoded : DecodedToken
  /-- The parts are those of the text. -/
  decoded_eq : DecodedToken.ofText text = .ok decoded
  /-- Nothing blank surrounds the text. -/
  trimmed : Text.trim text = text

namespace Token

/-- Tokens are equal when their texts are. -/
theorem ext_text {a b : Token} (h : a.text = b.text) : a = b := by
  obtain ⟨ta, da, ha, _⟩ := a
  obtain ⟨tb, db, hb, _⟩ := b
  obtain rfl : ta = tb := h
  rw [ha] at hb
  cases hb
  rfl

instance : DecidableEq Token := fun a b =>
  if h : a.text = b.text then isTrue (ext_text h) else isFalse fun e => h (e ▸ rfl)

/-- Reads a token. Blank characters around it do not count. -/
def parse (text : String) : Except MalformedToken Token :=
  match h : DecodedToken.ofText (Text.trim text) with
  | .ok decoded => .ok ⟨Text.trim text, decoded, h, Text.trim_trim text⟩
  | .error e => .error e

def claims (token : Token) : Claims := token.decoded.claims

/-- The signature algorithm that the header names. -/
def algorithm (token : Token) : String := token.decoded.header.algorithm

def issuer (token : Token) : String := token.claims.issuer

def subject (token : Token) : String := token.claims.subject

/-- What kind of access the token gives. -/
def tokenType (token : Token) : TokenType := token.claims.tokenType

def attribute? (token : Token) (name : String) : Option String :=
  token.claims.attribute? name

end Token

/-- Tokens in the order of their texts, each once. -/
abbrev TokenSet := Catalog Token.text

end FederatedAccess
