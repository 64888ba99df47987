import FederatedAccess.Ed25519.Signature
import FederatedAccess.Encoding.Base64
import FederatedAccess.Text.Blank

/-!
# Key documents

A public key travels as a DER document of 44 octets: twelve that say "a key of Ed25519" and the 32
of the key. In a claim the document stands as base64 (`wire`, `ofWire`).
-/

namespace FederatedAccess

/-- Why a text does not give a public key. -/
inductive KeyError
  /-- The text is not base64. -/
  | encoding
  /-- The content is not the document of a key of Ed25519. -/
  | document
  /-- There is no text at all. -/
  | emptyCertificate
deriving DecidableEq, Repr

/-- The wording of an error; where the cause has a reason of its own, it would follow. -/
def KeyError.message : KeyError → String
  | encoding => "key material is not valid base64: "
  | document => "key material is not a valid Ed25519 document: "
  | emptyCertificate => "certificate is empty"

namespace Ed25519.PublicKey

/-- The octets in front of every key: the algorithm, and a bit string of 256 bits. -/
def documentHead : List UInt8 :=
  [0x30, 0x2A, 0x30, 0x05, 0x06, 0x03, 0x2B, 0x65, 0x70, 0x03, 0x21, 0x00]

def document (key : PublicKey) : List UInt8 :=
  documentHead ++ key.octets

def ofDocument? (octets : List UInt8) : Option PublicKey :=
  if documentHead.isPrefixOf octets then ofOctets? (octets.drop documentHead.length) else none

/-- The wire form of a key: its document in base64. -/
def wire (key : PublicKey) : String :=
  Base64.encode key.document

/-- The key of a wire form; blank characters around it do not count. -/
def ofWire (text : String) : Except KeyError PublicKey :=
  match Base64.decode? (Text.trim text) with
  | none => .error .encoding
  | some octets =>
    match ofDocument? octets with
    | none => .error .document
    | some key => .ok key

end Ed25519.PublicKey

/-! ## Signatures as text -/

namespace Ed25519

/-- The base64 form of the signature of a text. -/
def SecretKey.signText (key : SecretKey) (text : String) : String :=
  Base64.encode (key.sign (Utf8.encode text))

/-- Whether a text is the base64 form of a signature of `text`. What cannot be decoded is none. -/
def PublicKey.verifiesText (key : PublicKey) (text signature : String) : Bool :=
  match Base64.decode? signature with
  | some octets => key.verifies (Utf8.encode text) octets
  | none => false

end Ed25519

end FederatedAccess
