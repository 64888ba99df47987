import FederatedAccess.Number.Numeral
import FederatedAccess.Text.Blank

/-!
# Durations

A duration is a number of seconds that fits into an unsigned word, and nanoseconds below a second.
Its text is a sum of numbers with units, such as `1h 30m`; a number may have decimal places as long
as the sum stays exact.
-/

namespace FederatedAccess

/-- A span of time. -/
structure Duration where
  /-- Whole seconds. -/
  seconds : UInt64
  /-- Nanoseconds beyond them. -/
  nanos : Nat
  /-- The nanoseconds stay below a second. -/
  nanos_lt : nanos < 1000000000 := by decide
deriving DecidableEq, Repr

namespace Duration

/-- The empty span. -/
def zero : Duration where
  seconds := 0
  nanos := 0

/-- A number of whole seconds. -/
def ofSeconds (seconds : UInt64) : Duration where
  seconds := seconds
  nanos := 0

/-- Whole milliseconds. -/
def millis (d : Duration) : Nat :=
  d.seconds.toNat * 1000 + d.nanos / 1000000

/-- The span of some seconds and nanoseconds, if the seconds fit into a word. -/
def ofParts? (seconds nanos : Nat) : Option Duration :=
  let total := seconds + nanos / 1000000000
  if total < UInt64.size then
    some ⟨UInt64.ofNat total, nanos % 1000000000, Nat.mod_lt _ (by decide)⟩
  else none

/-! ## Units -/

/-- A unit of time. -/
inductive TimeUnit
  | nanosecond | microsecond | millisecond | second | minute | hour | day | week | month | year
deriving DecidableEq, Repr

namespace TimeUnit

/-- The unit in nanoseconds. A month is 30.44 days and a year 365.25. -/
def nanos : TimeUnit → Nat
  | nanosecond => 1
  | microsecond => 1000
  | millisecond => 1000000
  | second => 1000000000
  | minute => 60 * 1000000000
  | hour => 3600 * 1000000000
  | day => 86400 * 1000000000
  | week => 604800 * 1000000000
  | month => 2630016 * 1000000000
  | year => 31557600 * 1000000000

/-- Whether the unit is counted in seconds. -/
def isWhole : TimeUnit → Bool
  | nanosecond | microsecond | millisecond => false
  | _ => true

def names : List (String × TimeUnit) :=
  [("nanos", nanosecond), ("nsec", nanosecond), ("ns", nanosecond),
    ("usec", microsecond), ("us", microsecond), ("µs", microsecond),
    ("millis", millisecond), ("msec", millisecond), ("ms", millisecond),
    ("seconds", second), ("second", second), ("secs", second), ("sec", second), ("s", second),
    ("minutes", minute), ("minute", minute), ("mins", minute), ("min", minute), ("m", minute),
    ("hours", hour), ("hour", hour), ("hrs", hour), ("hr", hour), ("h", hour),
    ("days", day), ("day", day), ("d", day),
    ("weeks", week), ("week", week), ("wks", week), ("wk", week), ("w", week),
    ("months", month), ("month", month), ("M", month),
    ("years", year), ("year", year), ("yrs", year), ("yr", year), ("y", year)]

def ofName? (chars : List Char) : Option TimeUnit :=
  (names.find? fun entry => entry.1.toList = chars).map Prod.snd

end TimeUnit

/-! ## Writing -/

/-- A number with its unit, unless the number is zero. -/
def item (n : Nat) (unit : String) : List String :=
  if n = 0 then [] else [Numeral.ofNat n ++ unit]

/-- A number with its unit in singular or plural, unless the number is zero. -/
def counted (n : Nat) (unit : String) : List String :=
  if n = 0 then [] else if n = 1 then [Numeral.ofNat n ++ unit]
  else [Numeral.ofNat n ++ unit ++ "s"]

/-- The text of a duration: its parts from years to nanoseconds that are not zero. -/
def text (d : Duration) : String :=
  let s := d.seconds.toNat
  let inYear := s % 31557600
  let inMonth := inYear % 2630016
  let inDay := inMonth % 86400
  let parts :=
    counted (s / 31557600) "year" ++ counted (inYear / 2630016) "month" ++
      counted (inMonth / 86400) "day" ++ item (inDay / 3600) "h" ++ item (inDay % 3600 / 60) "m" ++
      item (inDay % 60) "s" ++ item (d.nanos / 1000000) "ms" ++
      item (d.nanos / 1000 % 1000) "us" ++ item (d.nanos % 1000) "ns"
  if parts = [] then "0s" else " ".intercalate parts

/-! ## Reading -/

def isUnitChar (c : Char) : Bool :=
  ('a' ≤ c && c ≤ 'z') || ('A' ≤ c && c ≤ 'Z') || c = 'µ'

/-- Appends a digit to a number if the result fits into an unsigned word. -/
def appendDigit? (n : Nat) (c : Char) : Option Nat :=
  let m := n * 10 + Numeral.digitValue c
  if m < UInt64.size then some m else none

/-- The digits at the front, appended to `n`; blank characters between them do not count. -/
def number? : List Char → Nat → Option (Nat × List Char)
  | [], n => some (n, [])
  | c :: rest, n =>
    if Numeral.isDigit c then (appendDigit? n c).bind (number? rest)
    else if Text.isBlank c then number? rest n
    else some (n, c :: rest)

/-- The decimal places at the front: numerator and denominator, both within a word. -/
def places? : List Char → Nat → Nat → Option ((Nat × Nat) × List Char)
  | [], n, d => some ((n, d), [])
  | c :: rest, n, d =>
    if Numeral.isDigit c then
      if d * 10 < UInt64.size then
        (appendDigit? n c).bind fun n => places? rest n (d * 10)
      else none
    else if Text.isBlank c then places? rest n d
    else some ((n, d), c :: rest)

/-- The decimal places after a point, if there is one; a point needs at least one digit. -/
def fraction? : List Char → Option (Option (Nat × Nat) × List Char)
  | '.' :: rest => do
    let (found, rest) ← places? rest 0 1
    if found.2 = 1 then none else some (some found, rest)
  | rest => some (none, rest)

/-- A product that fits into an unsigned word. -/
def product? (a b : Nat) : Option Nat :=
  if a * b < UInt64.size then some (a * b) else none

/-- A number of units in seconds and nanoseconds, each within a word. -/
def inUnit? (unit : TimeUnit) (n : Nat) : Option (Nat × Nat) :=
  if unit.isWhole then (product? n (unit.nanos / 1000000000)).map (·, 0)
  else (product? n unit.nanos).map (0, ·)

/-- A decimal fraction of a unit. Fractions of an hour and more are whole seconds, smaller ones
whole nanoseconds; a remainder, or any fraction of a nanosecond, is refused. -/
def partOfUnit? (unit : TimeUnit) (n d : Nat) : Option (Nat × Nat) :=
  let inSeconds := 3600 * 1000000000 ≤ unit.nanos
  if unit = .nanosecond then none
  else do
    let p ← product? n (if inSeconds then unit.nanos / 1000000000 else unit.nanos)
    if p % d ≠ 0 then none
    else if inSeconds then some (p / d, 0)
    else some (0, p / d)

/-- Adds seconds and nanoseconds to a span. -/
def add? (total : Duration) (part : Nat × Nat) : Option Duration :=
  let nanos := total.nanos + part.2
  if nanos < UInt64.size then ofParts? (total.seconds.toNat + part.1) nanos else none

/-- Adds a number of units, with decimal places, to a span. -/
def addTerm? (total : Duration) (n : Nat) (fraction : Option (Nat × Nat)) (unit : TimeUnit) :
    Option Duration := do
  let whole ← inUnit? unit n
  let total ← add? total whole
  match fraction with
  | none => some total
  | some (numerator, denominator) => do
    let part ← partOfUnit? unit numerator denominator
    add? total part

/-- What may follow a unit: a blank character, a digit or the end. -/
def endsUnit : List Char → Bool
  | [] => true
  | c :: _ => Text.isBlank c || Numeral.isDigit c

/-- The sum of the terms of a text; `fuel` bounds their number. -/
def sum? : Nat → List Char → Duration → Option Duration
  | 0, _, _ => none
  | fuel + 1, input, total =>
    match input.dropWhile Text.isBlank with
    | [] => some total
    | c :: rest =>
      if !Numeral.isDigit c then none
      else do
        let (n, rest) ← number? rest (Numeral.digitValue c)
        let (fraction, rest) ← fraction? rest
        let unit ← TimeUnit.ofName? (rest.takeWhile isUnitChar)
        let rest := rest.dropWhile isUnitChar
        if endsUnit rest then
          let total ← addTerm? total n fraction unit
          sum? fuel rest total
        else none

/-- The duration of a text of one or more terms. -/
def ofText? (text : String) : Option Duration :=
  if Text.isBlankText text then none
  else sum? (text.toList.length + 1) text.toList zero

end Duration

end FederatedAccess
