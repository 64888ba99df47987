/-!
# Hexadecimal text

Octets as two lower-case digits each.
-/

namespace FederatedAccess.Hex

/-- The digit of a value below 16. -/
def digit (v : Nat) : Char :=
  if v < 10 then Char.ofNat (v + 48) else Char.ofNat (v - 10 + 97)

/-- The value of a digit of either case. -/
def value? (c : Char) : Option Nat :=
  if '0' ≤ c ∧ c ≤ '9' then some (c.toNat - 48)
  else if 'a' ≤ c ∧ c ≤ 'f' then some (c.toNat - 97 + 10)
  else if 'A' ≤ c ∧ c ≤ 'F' then some (c.toNat - 65 + 10)
  else none

/-- The digits of a sequence of octets. -/
def encodeChars (octets : List UInt8) : List Char :=
  octets.flatMap fun octet => [digit (octet.toNat / 16), digit (octet.toNat % 16)]

/-- The text of a sequence of octets. -/
def encode (octets : List UInt8) : String :=
  String.ofList (encodeChars octets)

/-- The octets that pairs of digits stand for. -/
def decodeChars : List Char → Option (List UInt8)
  | [] => some []
  | a :: b :: rest => do
    let p ← value? a
    let q ← value? b
    let octets ← decodeChars rest
    some (UInt8.ofNat (p * 16 + q) :: octets)
  | [_] => none

/-- The octets that a text stands for. -/
def decode? (text : String) : Option (List UInt8) :=
  decodeChars text.toList

end FederatedAccess.Hex
