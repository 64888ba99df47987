import FederatedAccess.Key.Document

/-!
# Certificates

A certificate is the identity of a party: its public key in textual armour, or nothing. The armour
is read strictly. Text may precede it on lines of its own, the content is one line, and its two
boundaries carry the same label.
-/

namespace FederatedAccess

/-- The text of a certificate; a blank text means "not provided". -/
structure Certificate where
  text : String := ""
deriving DecidableEq, Repr, Hashable

instance : Inhabited Certificate := ⟨{}⟩

namespace Certificate

/-! ## Armour -/

/-- What opens the line above the content. -/
def beginBoundary : List Char := "-----BEGIN ".toList

/-- What opens the line below the content. -/
def endBoundary : List Char := "-----END ".toList

def delimiter : List Char := "-----".toList

def label : List Char := "PUBLIC KEY".toList

/-- The text from the first boundary on, which stands at the start or after a line feed; nothing
before it may be a null character. -/
def skipPreamble : List Char → Option (List Char)
  | [] => none
  | c :: rest =>
    if c = '\x00' then none
    else if c = '\n' ∧ beginBoundary.isPrefixOf rest then some rest
    else skipPreamble rest

def armour? (chars : List Char) : Option (List Char) :=
  if beginBoundary.isPrefixOf chars then some chars else skipPreamble chars

/-- The text after one line end. -/
def afterLineEnd? : List Char → Option (List Char)
  | '\n' :: rest => some rest
  | '\r' :: '\n' :: rest => some rest
  | '\r' :: rest => some rest
  | _ => none

def after? (start chars : List Char) : Option (List Char) :=
  if start.isPrefixOf chars then some (chars.drop start.length) else none

/-- The text before one line end, given in reverse. -/
def beforeLineEnd? : List Char → Option (List Char)
  | '\n' :: '\r' :: rest => some rest
  | '\n' :: rest => some rest
  | '\r' :: rest => some rest
  | _ => none

/-- What stands between the two boundaries of an armoured text. -/
def content? (chars : List Char) : Option (List Char) := do
  let rest ← after? (beginBoundary ++ label ++ delimiter) chars
  let rest ← afterLineEnd? rest
  let backward ← after? (endBoundary ++ label ++ delimiter).reverse rest.reverse
  let backward ← beforeLineEnd? backward
  some ((beforeLineEnd? backward).getD backward).reverse

/-- The greatest width of the line that holds the content. -/
def lineWidth : Nat := 64

def document? (chars : List Char) : Option (List UInt8) := do
  let rest ← armour? chars
  let content ← content? rest
  if content.length ≤ lineWidth then Base64.decodeChars Base64.standard .required content else none

/-! ## Certificates of keys -/

/-- Whether the certificate is not provided. -/
def isEmpty (certificate : Certificate) : Bool :=
  (Text.trim certificate.text).isEmpty

def ofPublicKey (key : Ed25519.PublicKey) : Certificate where
  text := "-----BEGIN PUBLIC KEY-----\n" ++ key.wire ++ "\n-----END PUBLIC KEY-----\n"

def publicKey (certificate : Certificate) : Except KeyError Ed25519.PublicKey :=
  if certificate.isEmpty then .error .emptyCertificate
  else
    match (document? (Text.trim certificate.text).toList).bind Ed25519.PublicKey.ofDocument? with
    | some key => .ok key
    | none => .error .document

end Certificate

end FederatedAccess
