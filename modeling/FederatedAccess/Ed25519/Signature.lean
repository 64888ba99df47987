import FederatedAccess.Ed25519.Curve
import FederatedAccess.Sha2

/-!
# Ed25519 signatures

Signing and two ways to verify. `verifies` compares the recomputed commitment with the one in the
signature; `verifiesStrictly` also refuses keys and commitments of small order. Both refuse a
response that is not reduced.
-/

namespace FederatedAccess.Ed25519

/-- A public key as its 32 octets. Two keys are equal when their octets are. -/
@[ext]
structure PublicKey where
  octets : List UInt8
  length_eq : octets.length = 32
deriving DecidableEq

/-- A secret key: the 32 octets that everything else is derived from. -/
structure SecretKey where
  seed : List UInt8
  length_eq : seed.length = 32
deriving DecidableEq

/-- The public key with the given octets, if they are a point of the curve. -/
def PublicKey.ofOctets? (octets : List UInt8) : Option PublicKey :=
  if h : (decompress octets).isSome then some ⟨octets, length_of_decompress h⟩ else none

/-- The number that a digest stands for, modulo the group order. -/
def scalarOf (octets : List UInt8) : Nat :=
  ofLittleEndian octets % groupOrder

namespace SecretKey

/-- The 64 octets that the seed expands to. -/
def expanded (key : SecretKey) : List UInt8 :=
  Sha2.digest Sha2.sha512 key.seed

/-- The secret multiplier: a multiple of eight with its highest bit fixed. -/
def multiplier (key : SecretKey) : Nat :=
  let n := ofLittleEndian (key.expanded.take 32)
  n % Nat.pow 2 254 / 8 * 8 + Nat.pow 2 254

/-- The public key that belongs to a secret key. -/
def publicKey (key : SecretKey) : PublicKey :=
  ⟨(Point.multiple key.multiplier Point.base).compress, Point.length_compress _⟩

/-- The 64 octets of the signature of a message. -/
def sign (key : SecretKey) (message : List UInt8) : List UInt8 :=
  let nonce := scalarOf (Sha2.digest Sha2.sha512 (key.expanded.drop 32 ++ message))
  let commitment := (Point.multiple nonce Point.base).compress
  let challenge :=
    scalarOf (Sha2.digest Sha2.sha512 (commitment ++ key.publicKey.octets ++ message))
  commitment ++ littleEndian 32 ((nonce + challenge * key.multiplier) % groupOrder)

end SecretKey

/-- The commitment that a signature of `message` with this response would need. -/
def expectedCommitment (key : PublicKey) (point : Point) (message commitment : List UInt8)
    (response : Nat) : List UInt8 :=
  let challenge := scalarOf (Sha2.digest Sha2.sha512 (commitment ++ key.octets ++ message))
  ((Point.multiple response Point.base).add (Point.multiple challenge point.negate)).compress

/-- The equation of a signature whose parts are known. -/
def PublicKey.accepts (key : PublicKey) (strict : Bool) (message commitment : List UInt8)
    (response : Nat) : Bool :=
  match decompress key.octets with
  | none => false
  | some point =>
    (!strict || match decompress commitment with
      | none => false
      | some p => !p.hasSmallOrder && !point.hasSmallOrder) &&
    expectedCommitment key point message commitment response == commitment

/-- Splits 64 octets into commitment and reduced response. -/
def parts? (signature : List UInt8) : Option (List UInt8 × Nat) :=
  let response := ofLittleEndian (signature.drop 32)
  if signature.length = 64 ∧ response < groupOrder then some (signature.take 32, response)
  else none

/-- Whether 64 octets are a signature of the message under the key. -/
def PublicKey.verifies (key : PublicKey) (message signature : List UInt8) : Bool :=
  match parts? signature with
  | some (commitment, response) => key.accepts false message commitment response
  | none => false

/-- Whether 64 octets are a signature of the message under the key, neither of them of small
order. -/
def PublicKey.verifiesStrictly (key : PublicKey) (message signature : List UInt8) : Bool :=
  match parts? signature with
  | some (commitment, response) => key.accepts true message commitment response
  | none => false

end FederatedAccess.Ed25519
