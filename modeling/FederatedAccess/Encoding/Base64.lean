/-!
# Base64

Octets as text, six bits to a digit. Both alphabets and three ways to treat the fill character are
served by one reader, which is canonical in the bits: unused bits of a last digit are zero.
-/

namespace FederatedAccess.Base64

/-- The two digits in which the alphabets differ. -/
structure Alphabet where
  digit62 : Char
  digit63 : Char

def standard : Alphabet := ⟨'+', '/'⟩

def urlSafe : Alphabet := ⟨'-', '_'⟩

/-- The digit of a value below 64. -/
def Alphabet.digit (alphabet : Alphabet) (v : Nat) : Char :=
  if v < 26 then Char.ofNat (v + 65)
  else if v < 52 then Char.ofNat (v - 26 + 97)
  else if v < 62 then Char.ofNat (v - 52 + 48)
  else if v = 62 then alphabet.digit62
  else alphabet.digit63

def Alphabet.value? (alphabet : Alphabet) (c : Char) : Option Nat :=
  if 'A' ≤ c ∧ c ≤ 'Z' then some (c.toNat - 65)
  else if 'a' ≤ c ∧ c ≤ 'z' then some (c.toNat - 97 + 26)
  else if '0' ≤ c ∧ c ≤ '9' then some (c.toNat - 48 + 52)
  else if c = alphabet.digit62 then some 62
  else if c = alphabet.digit63 then some 63
  else none

/-! ## Writing -/

/-- The digits of a sequence of octets; `fill` is written where the last group lacks octets. -/
def encodeChars (alphabet : Alphabet) (fill : List Char) : List UInt8 → List Char
  | a :: b :: c :: rest =>
    let a := a.toNat
    let b := b.toNat
    let c := c.toNat
    alphabet.digit (a / 4) :: alphabet.digit (a % 4 * 16 + b / 16) ::
      alphabet.digit (b % 16 * 4 + c / 64) :: alphabet.digit (c % 64) ::
      encodeChars alphabet fill rest
  | [a, b] =>
    let a := a.toNat
    let b := b.toNat
    alphabet.digit (a / 4) :: alphabet.digit (a % 4 * 16 + b / 16) ::
      alphabet.digit (b % 16 * 4) :: fill
  | [a] =>
    let a := a.toNat
    alphabet.digit (a / 4) :: alphabet.digit (a % 4 * 16) :: (fill ++ fill)
  | [] => []

/-- Standard base64, filled up to whole groups. -/
def encode (octets : List UInt8) : String :=
  String.ofList (encodeChars standard ['='] octets)

/-- URL-safe base64 without fill. -/
def encodeUrl (octets : List UInt8) : String :=
  String.ofList (encodeChars urlSafe [] octets)

/-! ## Reading -/

/-- What a reader requires of the fill characters at the end. -/
inductive Fill
  /-- The last group must be filled up to four characters. -/
  | required
  /-- The last group may be filled, fully or partly, or not at all. -/
  | optional
deriving DecidableEq

/-- The octets of the last group of two to four characters, fill included. -/
def decodeLast (alphabet : Alphabet) (fill : Fill) (group : List Char) :
    Option (List UInt8) := do
  let digits := group.takeWhile (· ≠ '=')
  let rest := group.dropWhile (· ≠ '=')
  if !rest.all (· = '=') || (fill = .required && group.length ≠ 4) then none
  else match ← digits.mapM alphabet.value? with
    | [p, q] => if q % 16 = 0 then some [UInt8.ofNat (p * 4 + q / 16)] else none
    | [p, q, r] =>
      if r % 4 = 0 then
        some [UInt8.ofNat (p * 4 + q / 16), UInt8.ofNat (q % 16 * 16 + r / 4)]
      else none
    | [p, q, r, s] =>
      some [UInt8.ofNat (p * 4 + q / 16), UInt8.ofNat (q % 16 * 16 + r / 4),
        UInt8.ofNat (r % 4 * 64 + s)]
    | _ => none

/-- The octets of a text: whole groups of four digits, then a last group. -/
def decodeChars (alphabet : Alphabet) (fill : Fill) : List Char → Option (List UInt8)
  | [] => some []
  | a :: b :: c :: d :: e :: rest => do
    let p ← alphabet.value? a
    let q ← alphabet.value? b
    let r ← alphabet.value? c
    let s ← alphabet.value? d
    let octets ← decodeChars alphabet fill (e :: rest)
    some (UInt8.ofNat (p * 4 + q / 16) :: UInt8.ofNat (q % 16 * 16 + r / 4) ::
      UInt8.ofNat (r % 4 * 64 + s) :: octets)
  | group => decodeLast alphabet fill group

/-- Standard base64 with its fill. -/
def decode? (text : String) : Option (List UInt8) :=
  decodeChars standard .required text.toList

/-- URL-safe base64, with or without fill. -/
def decodeUrl? (text : String) : Option (List UInt8) :=
  decodeChars urlSafe .optional text.toList

end FederatedAccess.Base64
