import FederatedAccess.Number.Numeral
import FederatedAccess.Pattern.Flags
import FederatedAccess.Pattern.Node

/-!
# Escapes of regular expressions

What a backslash and the characters after it stand for: a character, a set of characters or an
assertion.
-/

namespace FederatedAccess.Pattern

open Text

/-- What an escape stands for. -/
inductive Atom
  | literal (c : Char)
  | set (s : CharSet)
  | look (assertion : Assertion)

/-! ## Sets -/

/-- A set, closed under case if case does not count, or its complement. Without Unicode a complement
would tear characters apart and is refused. -/
def finishSet? (flags : Flags) (negated : Bool) (s : CharSet) : Option CharSet :=
  let closed := if flags.caseless then .folded (!flags.unicode) s else s
  if !negated then some closed
  else if flags.unicode then some (.complement closed)
  else none

/-- A class of characters that is closed under case as it stands, or its complement. -/
def plainClass? (flags : Flags) (negated : Bool) (s ascii : CodePoints) : Option CharSet :=
  finishSet? { flags with caseless := false } negated (.points (if flags.unicode then s else ascii))

def asciiDigits : CodePoints := [(0x30, 0x39)]

def asciiBlanks : CodePoints := [(0x09, 0x0D), (0x20, 0x20)]

def letterClass? (flags : Flags) (letter : Char) : Option CharSet :=
  match letter with
  | 'd' => plainClass? flags false digitPoints asciiDigits
  | 'D' => plainClass? flags true digitPoints asciiDigits
  | 's' => plainClass? flags false blankPoints asciiBlanks
  | 'S' => plainClass? flags true blankPoints asciiBlanks
  | 'w' => plainClass? flags false wordPoints asciiWordPoints
  | 'W' => plainClass? flags true wordPoints asciiWordPoints
  | _ => none

/-- The characters up to the closing brace, and what follows it. -/
def untilBrace (spaced : Bool) : Nat → List Char → Option (List Char × List Char)
  | 0, _ => none
  | fuel + 1, input =>
    match skip spaced input with
    | [] => none
    | c :: rest =>
      if c = '\x7d' then some ([], rest)
      else (untilBrace spaced fuel rest).map fun found => (c :: found.1, found.2)

/-- Splits a text at the first occurrence of a character. -/
def splitAt? (mark : Char) (text : List Char) : Option (List Char × List Char) :=
  match text.dropWhile (· ≠ mark) with
  | [] => none
  | _ :: rest => some (text.takeWhile (· ≠ mark), rest)

/-- Splits a text at the first exclamation mark before an equals sign. -/
def splitUnequal? : List Char → Option (List Char × List Char)
  | '!' :: '=' :: rest => some ([], rest)
  | c :: rest => (splitUnequal? rest).map fun found => (c :: found.1, found.2)
  | [] => none

/-- The characters of a property named between braces, alone or with a value. A value may stand
after `!=` as well as after `=` or a colon, and means the same there. -/
def namedProperty? (name : List Char) : Option CharSet :=
  match (splitUnequal? name).or ((splitAt? ':' name).or (splitAt? '=' name)) with
  | some (property, value) => propertyValue? property value
  | none => property? name

/-- The property after the letter that announces one. -/
def propertyAfter? (flags : Flags) (negated : Bool) (input : List Char) :
    Option (CharSet × List Char) := do
  let (found, rest) ←
    match skip flags.spaced input with
    | [] => none
    | '\x7b' :: rest => do
      let (name, rest) ← untilBrace flags.spaced (rest.length + 1) rest
      some (← namedProperty? name, rest)
    | '\\' :: _ => none
    | c :: rest => do some (← property? [c], skip flags.spaced rest)
  if flags.unicode then some (← finishSet? flags negated found, rest) else none

/-! ## Characters by number -/

/-- The value of a hexadecimal digit of either case. -/
def hexValue? (c : Char) : Option Nat :=
  if Numeral.isDigit c then some (Numeral.digitValue c)
  else if 'a' ≤ c ∧ c ≤ 'f' then some (c.toNat - 87)
  else if 'A' ≤ c ∧ c ≤ 'F' then some (c.toNat - 55)
  else none

def charOfNumber? (v : Nat) : Option Char :=
  if h : v.isValidChar then some (Char.ofNatAux v h) else none

/-- A given number of hexadecimal digits, appended to `v`. -/
def fixedDigits? (spaced : Bool) : Nat → Nat → List Char → Option (Nat × List Char)
  | 0, v, input => some (v, input)
  | _ + 1, _, [] => none
  | n + 1, v, c :: rest => do
    let d ← hexValue? c
    fixedDigits? spaced n (v * 16 + d) (skip spaced rest)

/-- The number that hexadecimal digits stand for. -/
def hexNumber? (digits : List Char) : Option Nat := do
  let ds ← digits.mapM hexValue?
  if ds = [] then none else some (ds.foldl (fun v d => v * 16 + d) 0)

/-- The character whose number stands after the letter that announces one. Two digits stand for an
octet, which without Unicode must be ASCII. -/
def numbered? (flags : Flags) (digits : Nat) (input : List Char) : Option (Char × List Char) := do
  match skip flags.spaced input with
  | [] => none
  | '\x7b' :: rest =>
    let (text, rest) ← untilBrace flags.spaced (rest.length + 1) rest
    let c ← charOfNumber? (← hexNumber? text)
    some (c, skip flags.spaced rest)
  | input =>
    let (v, rest) ← fixedDigits? flags.spaced digits 0 input
    if digits = 2 ∧ !flags.unicode ∧ 0x80 ≤ v then none
    else some (← charOfNumber? v, rest)

/-! ## Edges of words -/

/-- A letter of the name of an edge. -/
def isEdgeChar (c : Char) : Bool :=
  ('A' ≤ c && c ≤ 'Z') || ('a' ≤ c && c ≤ 'z') || c = '-'

/-- The name of an edge, and what follows. -/
def edgeName (spaced : Bool) : Nat → List Char → List Char × List Char
  | 0, input => ([], input)
  | fuel + 1, input =>
    match input with
    | [] => ([], [])
    | c :: rest =>
      if isEdgeChar c then
        let found := edgeName spaced fuel (skip spaced rest)
        (c :: found.1, found.2)
      else ([], c :: rest)

def edge? (name : List Char) : Option WordEdge :=
  if name = "start".toList then some .opening
  else if name = "end".toList then some .closing
  else if name = "start-half".toList then some .notAfterWord
  else if name = "end-half".toList then some .notBeforeWord
  else none

/-- The edge after the letter of a boundary. A brace that no letter follows starts a repetition of
the boundary instead. -/
def boundary? (spaced : Bool) (input : List Char) : Option (WordEdge × List Char) :=
  match input with
  | '\x7b' :: rest =>
    match skip spaced rest with
    | [] => none
    | c :: rest =>
      if isEdgeChar c then
        let (name, rest) := edgeName spaced (rest.length + 2) (c :: rest)
        match rest with
        | '\x7d' :: rest => (edge? name).map (·, rest)
        | _ => none
      else some (.boundary, input)
  | _ => some (.boundary, input)

/-! ## Escapes -/

/-- The characters that have a meaning of their own and stand for themselves after a backslash. -/
def metaChars : List Char :=
  ['\\', '.', '+', '*', '?', '(', ')', '|', '[', ']', '\x7b', '\x7d', '^', '$', '#', '&', '-', '~']

/-- Whether a character stands for itself after a backslash. -/
def isEscapable (c : Char) : Bool :=
  metaChars.contains c ||
    (c.toNat < 0x80 && !c.isAlphanum && c ≠ '<' && c ≠ '>')

/-- The control character that a letter stands for. -/
def control? (c : Char) : Option Char :=
  match c with
  | 'a' => some '\x07'
  | 'f' => some '\x0c'
  | 't' => some '\t'
  | 'n' => some '\n'
  | 'r' => some '\r'
  | 'v' => some '\x0b'
  | _ => none

/-- The assertion that a letter or a bracket stands for. -/
def assertion? (flags : Flags) (c : Char) (rest : List Char) : Option (Assertion × List Char) :=
  match c with
  | 'A' => some (.textStart, rest)
  | 'z' => some (.textEnd, rest)
  | 'b' => (boundary? flags.spaced rest).map fun found => (.word found.1 !flags.unicode, found.2)
  | 'B' => some (.word .noBoundary !flags.unicode, rest)
  | '<' => some (.word .opening !flags.unicode, rest)
  | '>' => some (.word .closing !flags.unicode, rest)
  | _ => none

/-- What the characters after a backslash stand for, and what follows. -/
def escape? (flags : Flags) : List Char → Option (Atom × List Char)
  | [] => none
  | c :: rest =>
    if c = 'x' then (numbered? flags 2 rest).map fun found => (.literal found.1, found.2)
    else if c = 'u' then (numbered? flags 4 rest).map fun found => (.literal found.1, found.2)
    else if c = 'U' then (numbered? flags 8 rest).map fun found => (.literal found.1, found.2)
    else if c = 'p' ∨ c = 'P' then
      (propertyAfter? flags (c = 'P') rest).map fun found => (.set found.1, found.2)
    else if "dDsSwW".toList.contains c then (letterClass? flags c).map fun s => (.set s, rest)
    else if isEscapable c then some (.literal c, rest)
    else match control? c with
      | some control => some (.literal control, rest)
      | none => (assertion? flags c rest).map fun found => (.look found.1, found.2)

end FederatedAccess.Pattern
