import FederatedAccess.Number.Numeral

/-!
# Decimal numbers

A decimal number is a mantissa of at most 96 bits and a number of decimal places, at most 28. Its
text shows all its places, so `1.5` and `1.50` are two decimals of one value. Comparison is by value
and exact; reading rounds only the places for which there is no room.
-/

namespace FederatedAccess

/-- What the digits of a decimal stay below, as an integer: `2^96`. -/
def Decimal.limit : Nat := 0x1000000000000000000000000

/-- The number `mantissa / 10^scale`. -/
structure Decimal where
  /-- All digits, as an integer. -/
  mantissa : Int
  /-- The number of digits after the point. -/
  scale : Nat
  /-- The digits fit into 96 bits. -/
  fits : mantissa.natAbs < Decimal.limit := by decide
  /-- There are at most 28 places. -/
  scale_le : scale ≤ 28 := by decide
deriving DecidableEq, Repr

namespace Decimal

def mostPlaces : Nat := 28

/-- The decimal of a mantissa and a number of places, if there is one. -/
def ofParts? (mantissa : Int) (scale : Nat) : Option Decimal :=
  if h : mantissa.natAbs < limit ∧ scale ≤ 28 then some ⟨mantissa, scale, h.1, h.2⟩ else none

/-- An integer as a decimal without places. -/
def ofInt? (i : Int) : Option Decimal :=
  ofParts? i 0

/-! ## Order -/

/-- The order of the values. -/
def compare (a b : Decimal) : Ordering :=
  Ord.compare (a.mantissa * Nat.pow 10 b.scale) (b.mantissa * Nat.pow 10 a.scale)

/-! ## Writing -/

/-- The digits of the text with the point in its place. -/
def magnitudeChars (d : Decimal) : List Char :=
  let digits := Numeral.natChars d.mantissa.natAbs
  let padded := List.replicate (d.scale + 1 - digits.length) '0' ++ digits
  let whole := padded.take (padded.length - d.scale)
  if d.scale = 0 then whole else whole ++ '.' :: padded.drop (padded.length - d.scale)

def text (d : Decimal) : String :=
  String.ofList (if d.mantissa < 0 then '-' :: d.magnitudeChars else d.magnitudeChars)

/-! ## Reading

An underscore may stand anywhere after the first digit. -/

/-- Rounds up if the first digit without room is five or more. A mantissa that then needs more bits
gives up its last place, if it has one. -/
def roundAt (mantissa scale : Nat) (next : Char) : Option (Nat × Nat) :=
  if Numeral.isDigit next ∧ 5 ≤ Numeral.digitValue next then
    if mantissa + 1 < limit then some (mantissa + 1, scale)
    else if scale = 0 then none
    else some ((mantissa + 5) / 10, scale - 1)
  else some (mantissa, scale)

/-- Ends a mantissa that has no room for the digit `next`; what follows must still be digits. -/
def roundOff (mantissa scale : Nat) (next : Char) (rest : List Char) : Option (Nat × Nat) :=
  if (next :: rest).all fun c => Numeral.isDigit c || c = '_' then roundAt mantissa scale next
  else none

/-- The mantissa and places of a numeral without sign, added to those already read. `point` says
that the point has been passed, `seen` that there was a digit. -/
def readChars (point seen : Bool) (mantissa scale : Nat) : List Char → Option (Nat × Nat)
  | [] => if seen then some (mantissa, scale) else none
  | c :: rest =>
    if point ∧ scale = mostPlaces then roundOff mantissa scale c rest
    else if Numeral.isDigit c then
      let longer := mantissa * 10 + Numeral.digitValue c
      if longer < limit then readChars point true longer (if point then scale + 1 else scale) rest
      else if point then roundOff mantissa scale c rest
      else none
    else if c = '.' ∧ !point then readChars true seen mantissa scale rest
    else if c = '_' ∧ seen then readChars point seen mantissa scale rest
    else none

/-- The decimal of a numeral without exponent. -/
def ofPlainChars? (chars : List Char) : Option Decimal := do
  let (negative, rest) := match chars with
    | '-' :: rest => (true, rest)
    | '+' :: rest => (false, rest)
    | _ => (false, chars)
  let (mantissa, scale) ← readChars false false 0 0 rest
  ofParts? (if negative then -(mantissa : Int) else mantissa) scale

/-- Drops the last digit of a mantissa, a half going away from zero. -/
def dropDigit (mantissa : Int) : Int :=
  mantissa.tdiv 10 + if 5 ≤ mantissa.natAbs % 10 then mantissa.sign else 0

/-- Drops `n` digits of a mantissa; only the last of them decides about rounding. -/
def dropDigits (mantissa : Int) : Nat → Int
  | 0 => mantissa
  | n + 1 => dropDigit (mantissa.tdiv (Nat.pow 10 n))

/-- The value of a decimal divided by a power of ten. Places for which there is no room are rounded
off. -/
def shiftDown? (d : Decimal) (exponent : Nat) : Option Decimal :=
  if mostPlaces < exponent then none
  else if d.scale + exponent ≤ mostPlaces then ofParts? d.mantissa (d.scale + exponent)
  else ofParts? (dropDigits d.mantissa (d.scale + exponent - mostPlaces)) mostPlaces

/-- The value of a decimal times a power of ten. -/
def shiftUp? (d : Decimal) (exponent : Nat) : Option Decimal :=
  if exponent ≤ d.scale then ofParts? d.mantissa (d.scale - exponent)
  else if mostPlaces < exponent then none
  else ofParts? (d.mantissa * Nat.pow 10 (exponent - d.scale)) 0

def isExponentMark (c : Char) : Bool :=
  c = 'e' || c = 'E'

/-- The decimal of a numeral with an exponent. -/
def ofScientificChars? (chars : List Char) : Option Decimal := do
  let base ← ofPlainChars? (chars.takeWhile fun c => !isExponentMark c)
  match chars.dropWhile fun c => !isExponentMark c with
  | [] => none
  | _ :: '-' :: exponent => base.shiftDown? (← Numeral.word32? exponent)
  | _ :: exponent => base.shiftUp? (← Numeral.word32? exponent)

/-- The decimal of a numeral without exponent. -/
def ofPlain? (text : String) : Option Decimal :=
  ofPlainChars? text.toList

def ofText? (text : String) : Option Decimal :=
  (ofPlainChars? text.toList).or (ofScientificChars? text.toList)

end Decimal

end FederatedAccess
