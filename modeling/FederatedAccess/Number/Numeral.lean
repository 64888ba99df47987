/-!
# Decimal numerals

Natural numbers and integers as decimal text. The digits of a number carry no leading zero; readers
take any digits.
-/

namespace FederatedAccess.Numeral

/-- The character of a digit below ten. -/
def digitChar (d : Nat) : Char :=
  Char.ofNat (d + 48)

def isDigit (c : Char) : Bool :=
  '0' ≤ c && c ≤ '9'

def digitValue (c : Char) : Nat :=
  c.toNat - 48

/-- The digits of `n` in front of `rest`; `fuel` bounds their number. -/
def digitsOnto : Nat → Nat → List Nat → List Nat
  | 0, _, rest => rest
  | fuel + 1, n, rest =>
    if n < 10 then n :: rest else digitsOnto fuel (n / 10) (n % 10 :: rest)

/-- The decimal digits of a number, the highest first. -/
def digits (n : Nat) : List Nat :=
  digitsOnto (n + 1) n []

def ofDigits (ds : List Nat) : Nat :=
  ds.foldl (fun n d => n * 10 + d) 0

/-- The decimal text of a natural number. -/
def natChars (n : Nat) : List Char :=
  (digits n).map digitChar

def intChars (i : Int) : List Char :=
  if i < 0 then '-' :: natChars i.natAbs else natChars i.natAbs

/-- The decimal text of a natural number. -/
def ofNat (n : Nat) : String :=
  String.ofList (natChars n)

def ofInt (i : Int) : String :=
  String.ofList (intChars i)

/-- The number that a text of one or more digits stands for. -/
def nat? (chars : List Char) : Option Nat :=
  if chars = [] ∨ !chars.all isDigit then none
  else some (ofDigits (chars.map digitValue))

/-- The number below `2^32` that a text of digits stands for; a plus sign may precede them. -/
def word32? (chars : List Char) : Option Nat := do
  let n ← match chars with
    | '+' :: rest => nat? rest
    | _ => nat? chars
  if n < UInt32.size then some n else none

/-- The 64-bit integer that a text of digits stands for; a sign of either kind may precede them. -/
def int64? (chars : List Char) : Option Int64 := do
  let i : Int ← match chars with
    | '+' :: rest => (nat? rest).map Int.ofNat
    | '-' :: rest => (nat? rest).map fun n => -Int.ofNat n
    | _ => (nat? chars).map Int.ofNat
  if Int64.minValue.toInt ≤ i ∧ i ≤ Int64.maxValue.toInt then some (Int64.ofInt i) else none

/-! ## Forms of numbers -/

/-- Whether a text is digits, with an optional point among or beside them. -/
def isDecimal (chars : List Char) : Bool :=
  let fraction := (chars.dropWhile isDigit).drop 1
  let point := chars.dropWhile isDigit
  chars.any isDigit && (point.isEmpty || (point.head? = some '.' && fraction.all isDigit))

/-- The text without one sign in front. -/
def dropSign : List Char → List Char
  | '+' :: rest => rest
  | '-' :: rest => rest
  | chars => chars

/-- Whether a text is a decimal number, with an optional sign and exponent. -/
def isReal (chars : List Char) : Bool :=
  let magnitude := dropSign chars
  let isMark := fun c => c = 'e' || c = 'E'
  let exponent := magnitude.dropWhile fun c => !isMark c
  isDecimal (magnitude.takeWhile fun c => !isMark c) &&
    (exponent.isEmpty || (nat? (dropSign (exponent.drop 1))).isSome)

end FederatedAccess.Numeral
