import FederatedAccess.Json.Value

/-!
# Reading JSON numbers

A number without fraction and exponent is an exact integer when it fits into a word of 64 bits. Any
other number is a fraction: the digits that fit into an unsigned word, rounded, then scaled by one
rounded power of ten. Two roundings can differ from the nearest fraction, and they are the rule.
-/

namespace FederatedAccess.Json

/-- A number as it is written. -/
structure Numeral where
  /-- Whether a minus sign stands in front. -/
  negative : Bool
  /-- The digits before the point. -/
  whole : List Nat
  /-- The digits after the point; none without a point. -/
  fraction : List Nat
  /-- The exponent: whether it is negative, and its digits. -/
  exponent : Option (Bool × List Nat)

/-- A number as it is kept. -/
inductive Number
  | integer (i : Integer)
  | real (x : Binary64)

namespace Numeral

/-- Appends digits to a significand while it fits into an unsigned word, and returns what is
left. -/
def absorb : List Nat → Nat → Nat × List Nat
  | [], significand => (significand, [])
  | d :: rest, significand =>
    if significand * 10 + d < UInt64.size then absorb rest (significand * 10 + d)
    else (significand, d :: rest)

/-- The greatest power of ten among the scale factors. -/
def greatestPower : Nat := 308

/-- Scales a fraction by a power of ten. A power beyond the factors is divided out in steps; `fuel`
bounds them, since the second step already reaches zero. -/
def scale : Nat → Binary64 → Int → Option Binary64
  | 0, x, _ => some x
  | fuel + 1, x, exponent =>
    if exponent.natAbs ≤ greatestPower then do
      let power ← Binary64.ofNat? (Nat.pow 10 exponent.natAbs)
      if 0 ≤ exponent then x.mul? power else x.div? power
    else if x.significand = 0 then some x
    else if 0 ≤ exponent then none
    else do
      let power ← Binary64.ofNat? (Nat.pow 10 greatestPower)
      let reduced ← x.div? power
      scale fuel reduced (exponent + greatestPower)

/-- The fraction `significand * 10^exponent`, if it is in range. -/
def real? (negative : Bool) (significand : Nat) (exponent : Int) : Option Number := do
  let start ← Binary64.ofNat? significand
  let scaled ← scale 4 start exponent
  some (.real (if negative then scaled.negate else scaled))

/-- The value of a number without fraction and exponent whose digits fit into a word. The negative
zero and integers below the least word are fractions. -/
def whole? (negative : Bool) (significand : Nat) : Option Number :=
  let i : Int := if negative then -(significand : Int) else significand
  match Integer.ofInt? i with
  | some exact => if negative ∧ significand = 0 then real? true 0 0 else some (.integer exact)
  | none => real? negative significand 0

/-- The value of a number, if it is in range. -/
def value? (n : Numeral) : Option Number :=
  let whole := absorb n.whole 0
  let start : Int := whole.2.length
  let fraction := absorb n.fraction whole.1
  let point : Int := start - (n.fraction.length - fraction.2.length : Nat)
  match n.fraction, n.exponent, whole.2 with
  | [], none, [] => whole? n.negative whole.1
  | _, none, _ => real? n.negative fraction.1 point
  | _, some (negativeExponent, digits), _ =>
    let shift := FederatedAccess.Numeral.ofDigits digits
    if 0x80000000 ≤ shift then
      if fraction.1 = 0 ∨ negativeExponent then real? n.negative 0 0 else none
    else real? n.negative fraction.1 (if negativeExponent then point - shift else point + shift)

end Numeral

end FederatedAccess.Json
