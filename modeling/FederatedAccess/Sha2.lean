import FederatedAccess.Text.Utf8
import FederatedAccess.Encoding.Hex

/-!
# SHA-2

The hash functions SHA-256 and SHA-512. They differ in the width of their words, their constants and
the distances of their rotations, which `Variant` collects; padding, message schedule and rounds are
common to both.
-/

namespace FederatedAccess.Sha2

/-- What distinguishes one function of the family. -/
structure Variant (w : Nat) where
  /-- One constant for each round. -/
  constants : List (BitVec w)
  /-- The chaining value before the first block. -/
  start : List (BitVec w)
  /-- Rotations of the first chaining word. -/
  upper0 : Nat × Nat × Nat
  /-- Rotations of the fifth chaining word. -/
  upper1 : Nat × Nat × Nat
  /-- Two rotations and a shift of the schedule's older word. -/
  lower0 : Nat × Nat × Nat
  /-- Two rotations and a shift of the schedule's newer word. -/
  lower1 : Nat × Nat × Nat

/-- The eight words that are carried from round to round. -/
structure Chain (w : Nat) where
  /-- The first word. -/
  a : BitVec w
  /-- The second word. -/
  b : BitVec w
  /-- The third word. -/
  c : BitVec w
  /-- The fourth word. -/
  d : BitVec w
  /-- The fifth word. -/
  e : BitVec w
  /-- The sixth word. -/
  f : BitVec w
  /-- The seventh word. -/
  g : BitVec w
  /-- The eighth word. -/
  h : BitVec w

variable {w : Nat}

def Chain.ofList : List (BitVec w) → Chain w
  | [a, b, c, d, e, f, g, h] => ⟨a, b, c, d, e, f, g, h⟩
  | _ => ⟨0, 0, 0, 0, 0, 0, 0, 0⟩

/-- The words in order. -/
def Chain.toList (x : Chain w) : List (BitVec w) :=
  [x.a, x.b, x.c, x.d, x.e, x.f, x.g, x.h]

def Chain.add (x y : Chain w) : Chain w :=
  ⟨x.a + y.a, x.b + y.b, x.c + y.c, x.d + y.d, x.e + y.e, x.f + y.f, x.g + y.g, x.h + y.h⟩

/-- A rotation to the right by less than the width. -/
def rotate (x : BitVec w) (n : Nat) : BitVec w :=
  x >>> n ||| x <<< (w - n)

def upper (by3 : Nat × Nat × Nat) (x : BitVec w) : BitVec w :=
  rotate x by3.1 ^^^ rotate x by3.2.1 ^^^ rotate x by3.2.2

/-- The sum of two rotations and a shift. -/
def lower (by3 : Nat × Nat × Nat) (x : BitVec w) : BitVec w :=
  rotate x by3.1 ^^^ rotate x by3.2.1 ^^^ (x >>> by3.2.2)

/-- One round with its constant and its word of the schedule. -/
def round (v : Variant w) (x : Chain w) (constant word : BitVec w) : Chain w :=
  let choice := (x.e &&& x.f) ^^^ (~~~x.e &&& x.g)
  let majority := (x.a &&& x.b) ^^^ (x.a &&& x.c) ^^^ (x.b &&& x.c)
  let first := x.h + upper v.upper1 x.e + choice + constant + word
  let second := upper v.upper0 x.a + majority
  ⟨first + second, x.a, x.b, x.c, x.d + first, x.e, x.f, x.g⟩

/-- All rounds; `window` holds the next sixteen words of the schedule. -/
def rounds (v : Variant w) : List (BitVec w) → List (BitVec w) → Chain w → Chain w
  | constant :: constants, word :: window, x =>
    let next :=
      word + lower v.lower0 (window.getD 0 0) + window.getD 8 0 + lower v.lower1 (window.getD 13 0)
    rounds v constants (window ++ [next]) (round v x constant word)
  | _, _, x => x

/-- Takes in one block of sixteen words. -/
def absorb (v : Variant w) (x : Chain w) (block : List (BitVec w)) : Chain w :=
  x.add (rounds v v.constants block x)

/-- The word of a sequence of octets, the highest first. -/
def wordOf (octets : List UInt8) : BitVec w :=
  BitVec.ofNat w (octets.foldl (fun n b => n * 256 + b.toNat) 0)

/-- Cuts a list into pieces of `n`, as many as `count`. -/
def chunks {α : Type} (n : Nat) : Nat → List α → List (List α)
  | 0, _ => []
  | count + 1, xs => xs.take n :: chunks n count (xs.drop n)

/-- `n` as `count` octets, the highest first. -/
def bigEndian (n : Nat) : Nat → List UInt8
  | 0 => []
  | count + 1 => UInt8.ofNat (n >>> (8 * count)) :: bigEndian n count

/-- The message with a one bit, zeros, and its length in bits, up to whole blocks. -/
def pad (wordOctets : Nat) (message : List UInt8) : List UInt8 :=
  let block := 16 * wordOctets
  let used := message.length + 1 + 2 * wordOctets
  let zeros := (block - used % block) % block
  message ++ 0x80 :: (List.replicate zeros 0 ++ bigEndian (8 * message.length) (2 * wordOctets))

/-- The octets of a word, the highest first. -/
def octetsOf (x : BitVec w) : List UInt8 :=
  bigEndian x.toNat (w / 8)

def digest (v : Variant w) (message : List UInt8) : List UInt8 :=
  let padded := pad (w / 8) message
  let words := (chunks (w / 8) (padded.length / (w / 8)) padded).map wordOf
  let blocks := chunks 16 (words.length / 16) words
  (blocks.foldl (absorb v) (Chain.ofList v.start)).toList.flatMap octetsOf

def sha256 : Variant 32 where
  constants :=
    [0x428a2f98, 0x71374491, 0xb5c0fbcf, 0xe9b5dba5, 0x3956c25b, 0x59f111f1, 0x923f82a4,
      0xab1c5ed5, 0xd807aa98, 0x12835b01, 0x243185be, 0x550c7dc3, 0x72be5d74, 0x80deb1fe,
      0x9bdc06a7, 0xc19bf174, 0xe49b69c1, 0xefbe4786, 0x0fc19dc6, 0x240ca1cc, 0x2de92c6f,
      0x4a7484aa, 0x5cb0a9dc, 0x76f988da, 0x983e5152, 0xa831c66d, 0xb00327c8, 0xbf597fc7,
      0xc6e00bf3, 0xd5a79147, 0x06ca6351, 0x14292967, 0x27b70a85, 0x2e1b2138, 0x4d2c6dfc,
      0x53380d13, 0x650a7354, 0x766a0abb, 0x81c2c92e, 0x92722c85, 0xa2bfe8a1, 0xa81a664b,
      0xc24b8b70, 0xc76c51a3, 0xd192e819, 0xd6990624, 0xf40e3585, 0x106aa070, 0x19a4c116,
      0x1e376c08, 0x2748774c, 0x34b0bcb5, 0x391c0cb3, 0x4ed8aa4a, 0x5b9cca4f, 0x682e6ff3,
      0x748f82ee, 0x78a5636f, 0x84c87814, 0x8cc70208, 0x90befffa, 0xa4506ceb, 0xbef9a3f7,
      0xc67178f2]
  start :=
    [0x6a09e667, 0xbb67ae85, 0x3c6ef372, 0xa54ff53a, 0x510e527f, 0x9b05688c, 0x1f83d9ab,
      0x5be0cd19]
  upper0 := (2, 13, 22)
  upper1 := (6, 11, 25)
  lower0 := (7, 18, 3)
  lower1 := (17, 19, 10)

def sha512 : Variant 64 where
  constants :=
    [0x428a2f98d728ae22, 0x7137449123ef65cd, 0xb5c0fbcfec4d3b2f, 0xe9b5dba58189dbbc,
      0x3956c25bf348b538, 0x59f111f1b605d019, 0x923f82a4af194f9b, 0xab1c5ed5da6d8118,
      0xd807aa98a3030242, 0x12835b0145706fbe, 0x243185be4ee4b28c, 0x550c7dc3d5ffb4e2,
      0x72be5d74f27b896f, 0x80deb1fe3b1696b1, 0x9bdc06a725c71235, 0xc19bf174cf692694,
      0xe49b69c19ef14ad2, 0xefbe4786384f25e3, 0x0fc19dc68b8cd5b5, 0x240ca1cc77ac9c65,
      0x2de92c6f592b0275, 0x4a7484aa6ea6e483, 0x5cb0a9dcbd41fbd4, 0x76f988da831153b5,
      0x983e5152ee66dfab, 0xa831c66d2db43210, 0xb00327c898fb213f, 0xbf597fc7beef0ee4,
      0xc6e00bf33da88fc2, 0xd5a79147930aa725, 0x06ca6351e003826f, 0x142929670a0e6e70,
      0x27b70a8546d22ffc, 0x2e1b21385c26c926, 0x4d2c6dfc5ac42aed, 0x53380d139d95b3df,
      0x650a73548baf63de, 0x766a0abb3c77b2a8, 0x81c2c92e47edaee6, 0x92722c851482353b,
      0xa2bfe8a14cf10364, 0xa81a664bbc423001, 0xc24b8b70d0f89791, 0xc76c51a30654be30,
      0xd192e819d6ef5218, 0xd69906245565a910, 0xf40e35855771202a, 0x106aa07032bbd1b8,
      0x19a4c116b8d2d0c8, 0x1e376c085141ab53, 0x2748774cdf8eeb99, 0x34b0bcb5e19b48a8,
      0x391c0cb3c5c95a63, 0x4ed8aa4ae3418acb, 0x5b9cca4f7763e373, 0x682e6ff3d6b2b8a3,
      0x748f82ee5defb2fc, 0x78a5636f43172f60, 0x84c87814a1f0ab72, 0x8cc702081a6439ec,
      0x90befffa23631e28, 0xa4506cebde82bde9, 0xbef9a3f7b2c67915, 0xc67178f2e372532b,
      0xca273eceea26619c, 0xd186b8c721c0c207, 0xeada7dd6cde0eb1e, 0xf57d4f7fee6ed178,
      0x06f067aa72176fba, 0x0a637dc5a2c898a6, 0x113f9804bef90dae, 0x1b710b35131c471b,
      0x28db77f523047d84, 0x32caab7b40c72493, 0x3c9ebe0a15c9bebc, 0x431d67c49c100d4c,
      0x4cc5d4becb3e42b6, 0x597f299cfc657e2a, 0x5fcb6fab3ad6faec, 0x6c44198c4a475817]
  start :=
    [0x6a09e667f3bcc908, 0xbb67ae8584caa73b, 0x3c6ef372fe94f82b, 0xa54ff53a5f1d36f1,
      0x510e527fade682d1, 0x9b05688c2b3e6c1f, 0x1f83d9abfb41bd6b, 0x5be0cd19137e2179]
  upper0 := (28, 34, 39)
  upper1 := (14, 18, 41)
  lower0 := (1, 8, 7)
  lower1 := (19, 61, 6)

/-- The SHA-256 digest of a text in hexadecimal. -/
def hexOfText (text : String) : String :=
  Hex.encode (digest sha256 (Utf8.encode text))

end FederatedAccess.Sha2
