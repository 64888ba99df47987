/-!
# Texts as octets

A text is sent as its UTF-8 octets. `encode` writes them, `decode` reads them strictly: a shortest
form for every character, no surrogate, nothing above the last code point.
-/

namespace FederatedAccess.Utf8

/-- The octets of a text, character by character. -/
def encode (text : String) : List UInt8 :=
  text.toList.flatMap String.utf8EncodeChar

/-- The six payload bits of an octet that continues a character. -/
def continuation? (octet : UInt8) : Option Nat :=
  if 0x80 ≤ octet ∧ octet ≤ 0xBF then some (octet.toNat - 0x80) else none

/-- The character with code point `v`, if `v` is one and needs at least the value `least`. -/
def character? (least v : Nat) : Option Char :=
  if least ≤ v ∧ v.isValidChar then some (Char.ofNat v) else none

/-- The characters of a sequence of octets, if it is well formed. -/
def decodeChars : List UInt8 → Option (List Char)
  | [] => some []
  | a :: rest =>
    if a < 0x80 then (decodeChars rest).map (Char.ofNat a.toNat :: ·)
    else match rest with
      | [] => none
      | b :: rest => do
        let b ← continuation? b
        if 0xC0 ≤ a ∧ a < 0xE0 then
          let c ← character? 0x80 ((a.toNat - 0xC0) * 64 + b)
          (decodeChars rest).map (c :: ·)
        else match rest with
          | [] => none
          | c :: rest => do
            let c ← continuation? c
            if 0xE0 ≤ a ∧ a < 0xF0 then
              let c ← character? 0x800 ((a.toNat - 0xE0) * 4096 + b * 64 + c)
              (decodeChars rest).map (c :: ·)
            else match rest with
              | [] => none
              | d :: rest => do
                let d ← continuation? d
                if 0xF0 ≤ a ∧ a < 0xF8 then
                  let c ← character? 0x10000
                    ((a.toNat - 0xF0) * 262144 + b * 4096 + c * 64 + d)
                  (decodeChars rest).map (c :: ·)
                else none

/-- The text that a sequence of octets stands for, if it is well formed. -/
def decode (octets : List UInt8) : Option String :=
  (decodeChars octets).map String.ofList

end FederatedAccess.Utf8
