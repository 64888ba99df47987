import FederatedAccess.Number.Numeral

/-!
# Binary fractions of double precision

A finite number of double precision is a sign, a significand below `2^53` and a power of two. All
arithmetic is exact on natural numbers and ends in one rounding (`nearest`). `shortest` gives the
fewest decimal digits that read back as the same number.
-/

namespace FederatedAccess

/-- The number `significand * 2^exponent` with a sign. Results of `nearest` have a significand of
53 bits unless the exponent is the least one. -/
structure Binary64 where
  /-- Whether the number lies below zero or is the negative zero. -/
  negative : Bool
  /-- The significand. -/
  significand : Nat
  /-- The power of two. -/
  exponent : Int
deriving DecidableEq, Repr

namespace Binary64

def leastExponent : Int := -1074

def greatestExponent : Int := 971

/-- The value of the highest of the 53 bits of a significand: `2^52`. -/
def leadingBit : Nat := 0x10000000000000

/-- The fraction `num / den` as a fraction of units `2^exponent`. -/
def inUnits (num den : Nat) (exponent : Int) : Nat × Nat :=
  if 0 ≤ exponent then (num, den <<< exponent.toNat) else (num <<< (-exponent).toNat, den)

/-- The quotient rounded to the nearest natural number, a half going to the even neighbour. -/
def roundHalfEven (num den : Nat) : Nat :=
  let q := num / den
  let r := num % den
  if 2 * r < den then q
  else if den < 2 * r then q + 1
  else if q % 2 = 0 then q else q + 1

/-- The nearest number to `num / den`, if that is below the range's end. -/
def nearest (negative : Bool) (num den : Nat) : Option Binary64 :=
  if num = 0 ∨ den = 0 then some ⟨negative, 0, leastExponent⟩
  else
    let guess : Int := (Nat.log2 num : Int) - Nat.log2 den - 52
    let scaled := inUnits num den guess
    let exact := if scaled.1 / scaled.2 < leadingBit then guess - 1 else guess
    let exponent := if exact < leastExponent then leastExponent else exact
    let units := inUnits num den exponent
    let significand := roundHalfEven units.1 units.2
    let carried : Nat × Int :=
      if significand = 2 * leadingBit then (leadingBit, exponent + 1) else (significand, exponent)
    if greatestExponent < carried.2 then none else some ⟨negative, carried.1, carried.2⟩

def ratio (x : Binary64) : Nat × Nat :=
  if 0 ≤ x.exponent then (x.significand <<< x.exponent.toNat, 1)
  else (x.significand, 1 <<< (-x.exponent).toNat)

/-- The same number with the other sign. -/
def negate (x : Binary64) : Binary64 :=
  { x with negative := !x.negative }

def mul? (x y : Binary64) : Option Binary64 :=
  nearest (x.negative != y.negative) (x.ratio.1 * y.ratio.1) (x.ratio.2 * y.ratio.2)

/-- The rounded quotient by a number other than zero. -/
def div? (x y : Binary64) : Option Binary64 :=
  nearest (x.negative != y.negative) (x.ratio.1 * y.ratio.2) (x.ratio.2 * y.ratio.1)

/-- The nearest number to a natural number. -/
def ofNat? (n : Nat) : Option Binary64 :=
  nearest false n 1

/-! ## Shortest decimal digits -/

/-- The least `j` from `start` on with `den ≤ num * 10^j`; `fuel` bounds the search. -/
def scaleUp (num den : Nat) : Nat → Nat → Nat
  | 0, j => j
  | fuel + 1, j => if den ≤ num * Nat.pow 10 j then j else scaleUp num den fuel (j + 1)

/-- The `k` with `10^(k-1) ≤ num / den < 10^k`. -/
def magnitude (num den : Nat) : Int :=
  if den ≤ num then (Numeral.digits (num / den)).length
  else 1 - (scaleUp num den 400 1 : Int)

/-- The half-open question whether `d * 10^e` rounds to a number whose neighbourhood reaches from
`low / den` to `high / den`, ends included if `closed`. -/
def within (low high den : Nat) (closed : Bool) (d : Nat) (e : Int) : Bool :=
  let num := if 0 ≤ e then d * Nat.pow 10 e.toNat else d
  let scale := if 0 ≤ e then 1 else Nat.pow 10 (-e).toNat
  if closed then low * scale ≤ num * den && num * den ≤ high * scale
  else low * scale < num * den && num * den < high * scale

/-- The digits of the shortest text and the power of ten of the last one, tried with `count` digits
and more; `fuel` bounds the count. -/
def shortestFrom (num low high den : Nat) (closed : Bool) (k : Int) : Nat → Nat → Nat × Int
  | 0, count =>
    let e := k - count
    (if 0 ≤ e then num / den / Nat.pow 10 e.toNat else num * Nat.pow 10 (-e).toNat / den, e)
  | fuel + 1, count =>
    let e := k - count
    let top := if 0 ≤ e then num else num * Nat.pow 10 (-e).toNat
    let bottom := if 0 ≤ e then den * Nat.pow 10 e.toNat else den
    let below := top / bottom
    let fits := within low high den closed
    match fits below e, fits (below + 1) e with
    | true, true => (roundHalfEven top bottom, e)
    | true, false => (below, e)
    | false, true => (below + 1, e)
    | false, false => shortestFrom num low high den closed k fuel (count + 1)

/-- The fewest digits that read back as the magnitude `m * 2^e`, with the power of ten of the last
digit. -/
def shortest (x : Binary64) : Nat × Int :=
  let quarters : Nat × Nat :=
    if 0 ≤ x.exponent - 2 then (1 <<< (x.exponent - 2).toNat, 1)
    else (1, 1 <<< (2 - x.exponent).toNat)
  let below := if x.significand = leadingBit ∧ leastExponent < x.exponent then 1 else 2
  let num := 4 * x.significand * quarters.1
  let low := (4 * x.significand - below) * quarters.1
  let high := (4 * x.significand + 2) * quarters.1
  shortestFrom num low high quarters.2 (x.significand % 2 = 0) (magnitude num quarters.2) 17 1

/-- Digits without zeros at the end, and the power of ten moved accordingly. -/
def stripZeros (digits : List Nat) (e : Int) : List Nat × Int :=
  let kept := (digits.reverse.dropWhile (· = 0)).reverse
  (kept, e + (digits.length - kept.length))

/-- The significant digits and the power of ten of the last one; zero has one digit. -/
def shortestDigits (x : Binary64) : List Nat × Int :=
  if x.significand = 0 then ([0], 0)
  else
    let found := x.shortest
    stripZeros (Numeral.digits found.1) found.2

/-- The magnitude in positional notation: no exponent, and a point only before further digits. -/
def positionalChars (x : Binary64) : List Char :=
  let found := x.shortestDigits
  let chars := found.1.map Numeral.digitChar
  if 0 ≤ found.2 then chars ++ List.replicate found.2.toNat '0'
  else
    let places := (-found.2).toNat
    if places < chars.length then
      chars.take (chars.length - places) ++ '.' :: chars.drop (chars.length - places)
    else '0' :: '.' :: (List.replicate (places - chars.length) '0' ++ chars)

def positional (x : Binary64) : String :=
  String.ofList (if x.negative then '-' :: x.positionalChars else x.positionalChars)

end Binary64

end FederatedAccess
