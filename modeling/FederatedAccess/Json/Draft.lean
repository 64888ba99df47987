import FederatedAccess.Json.Number
import FederatedAccess.Text.Utf8

/-!
# Reading JSON texts

A text is read in two steps. `Draft.read` settles the grammar: the result is a tree whose leaves are
values, or `beyond` where a well-formed number is out of range or a well-formed text is not Unicode.
`Draft.value?` then asks for a plain value within the limits, nesting included. A reader of a record
that skips over a member it does not know takes the first step only.
-/

namespace FederatedAccess.Json

/-- A well-formed JSON text. -/
inductive Draft
  | null
  | bool (b : Bool)
  | integer (i : Integer)
  | real (x : Binary64)
  | string (s : String)
  /-- A number out of range or a text that is not Unicode. -/
  | beyond
  | array (items : List Draft)
  /-- Members with their names; a name that is not Unicode is `none`. -/
  | object (members : List (Option String × Draft))

namespace Draft

instance : Inhabited Draft := ⟨null⟩

/-! ## Texts -/

/-- A part of a text between quotation marks. -/
inductive Piece
  /-- An octet that stands for itself, or the character of a short escape. -/
  | octet (b : UInt8)
  /-- A code unit written with four hexadecimal digits. -/
  | unit (v : Nat)

/-- The value of a hexadecimal digit of either case. -/
def hexValue? (b : UInt8) : Option Nat :=
  if 0x30 ≤ b ∧ b ≤ 0x39 then some (b.toNat - 0x30)
  else if 0x61 ≤ b ∧ b ≤ 0x66 then some (b.toNat - 0x61 + 10)
  else if 0x41 ≤ b ∧ b ≤ 0x46 then some (b.toNat - 0x41 + 10)
  else none

/-- The octet that a short escape stands for. -/
def shortEscape? (b : UInt8) : Option UInt8 :=
  if b = 0x22 ∨ b = 0x5C ∨ b = 0x2F then some b
  else if b = 0x62 then some 0x08
  else if b = 0x66 then some 0x0C
  else if b = 0x6E then some 0x0A
  else if b = 0x72 then some 0x0D
  else if b = 0x74 then some 0x09
  else none

/-- Adds a piece in front of the pieces of a text. -/
def Piece.cons (piece : Piece) (rest : List Piece × List UInt8) : List Piece × List UInt8 :=
  (piece :: rest.1, rest.2)

/-- The pieces of a text up to its closing quotation mark, and what follows. -/
def pieces : List UInt8 → Option (List Piece × List UInt8)
  | [] => none
  | b :: rest =>
    if b = 0x22 then some ([], rest)
    else if b = 0x5C then
      match rest with
      | [] => none
      | e :: rest =>
        if e = 0x75 then
          match rest with
          | h1 :: h2 :: h3 :: h4 :: rest => do
            let v1 ← hexValue? h1
            let v2 ← hexValue? h2
            let v3 ← hexValue? h3
            let v4 ← hexValue? h4
            (pieces rest).map (Piece.unit (v1 * 4096 + v2 * 256 + v3 * 16 + v4)).cons
          | _ => none
        else do
          let octet ← shortEscape? e
          (pieces rest).map (Piece.octet octet).cons
    else if b < 0x20 then none
    else (pieces rest).map (Piece.octet b).cons

/-- The octets of a text; code units above the Basic Plane come in pairs. -/
def octets? : List Piece → Option (List UInt8)
  | [] => some []
  | .octet b :: rest => (octets? rest).map (b :: ·)
  | .unit v :: rest =>
    if 0xD800 ≤ v ∧ v < 0xDC00 then
      match rest with
      | .unit w :: rest =>
        if 0xDC00 ≤ w ∧ w < 0xE000 then
          let c := Char.ofNat (0x10000 + (v - 0xD800) * 0x400 + (w - 0xDC00))
          (octets? rest).map (String.utf8EncodeChar c ++ ·)
        else none
      | _ => none
    else if 0xDC00 ≤ v ∧ v < 0xE000 then none
    else (octets? rest).map (String.utf8EncodeChar (Char.ofNat v) ++ ·)

/-- The text that pieces stand for, if it is Unicode. -/
def textOf (parts : List Piece) : Option String :=
  (octets? parts).bind Utf8.decode

/-! ## Numbers -/

def isDigit (b : UInt8) : Bool :=
  0x30 ≤ b && b ≤ 0x39

/-- The digits at the front, and what follows. -/
def digits (input : List UInt8) : List Nat × List UInt8 :=
  ((input.takeWhile isDigit).map (·.toNat - 0x30), input.dropWhile isDigit)

/-- The digits after a point, if there is one. -/
def fraction? : List UInt8 → Option (List Nat × List UInt8)
  | 0x2E :: rest =>
    match digits rest with
    | ([], _) => none
    | found => some found
  | input => some ([], input)

/-- The digits of an exponent after its sign. -/
def exponentDigits (negative : Bool) (input : List UInt8) :
    Option (Option (Bool × List Nat) × List UInt8) :=
  match digits input with
  | ([], _) => none
  | (ds, rest) => some (some (negative, ds), rest)

def exponent? : List UInt8 → Option (Option (Bool × List Nat) × List UInt8)
  | b :: rest =>
    if b = 0x65 ∨ b = 0x45 then
      match rest with
      | 0x2B :: rest => exponentDigits false rest
      | 0x2D :: rest => exponentDigits true rest
      | _ => exponentDigits false rest
    else some (none, b :: rest)
  | [] => some (none, [])

/-- A number after its sign: digits without a leading zero, a fraction, an exponent. -/
def magnitude? (negative : Bool) (input : List UInt8) : Option (Numeral × List UInt8) := do
  let (whole, rest) := digits input
  if whole = [] ∨ (whole.head? = some 0 ∧ whole.length ≠ 1) then none
  else
    let (fraction, rest) ← fraction? rest
    let (exponent, rest) ← exponent? rest
    some (⟨negative, whole, fraction, exponent⟩, rest)

def numeral? : List UInt8 → Option (Numeral × List UInt8)
  | 0x2D :: rest => magnitude? true rest
  | input => magnitude? false input

def ofNumeral (n : Numeral) : Draft :=
  match n.value? with
  | some (.integer i) => integer i
  | some (.real x) => real x
  | none => beyond

def ofPieces (parts : List Piece) : Draft :=
  match textOf parts with
  | some s => string s
  | none => beyond

/-! ## Grammar -/

/-- White space between the parts of a JSON text. -/
def isSpace (b : UInt8) : Bool :=
  b = 0x20 || b = 0x0A || b = 0x09 || b = 0x0D

def skipSpace (input : List UInt8) : List UInt8 :=
  input.dropWhile isSpace

def after? (word : List UInt8) (input : List UInt8) : Option (List UInt8) :=
  if word.isPrefixOf input then some (input.drop word.length) else none

mutual
/-- The value at the front, and what follows; `fuel` bounds the nesting and the number of parts. -/
def parseValue : Nat → List UInt8 → Option (Draft × List UInt8)
  | 0, _ => none
  | fuel + 1, input =>
    match skipSpace input with
    | [] => none
    | b :: rest =>
      if b = 0x7B then
        match skipSpace rest with
        | 0x7D :: rest => some (object [], rest)
        | rest => (parseMembers fuel rest).map fun found => (object found.1, found.2)
      else if b = 0x5B then
        match skipSpace rest with
        | 0x5D :: rest => some (array [], rest)
        | rest => (parseItems fuel rest).map fun found => (array found.1, found.2)
      else if b = 0x22 then
        (pieces rest).map fun found => (ofPieces found.1, found.2)
      else if b = 0x6E then
        (after? [0x75, 0x6C, 0x6C] rest).map fun rest => (null, rest)
      else if b = 0x74 then
        (after? [0x72, 0x75, 0x65] rest).map fun rest => (bool true, rest)
      else if b = 0x66 then
        (after? [0x61, 0x6C, 0x73, 0x65] rest).map fun rest => (bool false, rest)
      else
        (numeral? (b :: rest)).map fun found => (ofNumeral found.1, found.2)

/-- One or more items up to the closing bracket. -/
def parseItems : Nat → List UInt8 → Option (List Draft × List UInt8)
  | 0, _ => none
  | fuel + 1, input => do
    let (item, rest) ← parseValue fuel input
    match skipSpace rest with
    | 0x2C :: rest => (parseItems fuel rest).map fun found => (item :: found.1, found.2)
    | 0x5D :: rest => some ([item], rest)
    | _ => none

/-- One or more members up to the closing brace. -/
def parseMembers : Nat → List UInt8 → Option (List (Option String × Draft) × List UInt8)
  | 0, _ => none
  | fuel + 1, input =>
    match skipSpace input with
    | 0x22 :: rest => do
      let (key, rest) ← pieces rest
      match skipSpace rest with
      | 0x3A :: rest => do
        let (value, rest) ← parseValue fuel rest
        let member := (textOf key, value)
        match skipSpace rest with
        | 0x2C :: rest => (parseMembers fuel rest).map fun found => (member :: found.1, found.2)
        | 0x7D :: rest => some ([member], rest)
        | _ => none
      | _ => none
    | _ => none
end

/-- The tree of a JSON text; nothing but white space may follow it. -/
def read (input : List UInt8) : Option Draft := do
  let (draft, rest) ← parseValue (2 * input.length + 2) input
  if skipSpace rest = [] then some draft else none

def readText (text : String) : Option Draft :=
  read (Utf8.encode text)

/-! ## Limits -/

/-- The levels of arrays and objects that may be open at a time. -/
def deepest : Nat := 127

/-- Puts a member in its place by name; an equal name is overwritten. -/
def insertMember (name : String) (value : Json) : List (String × Json) → List (String × Json)
  | [] => [(name, value)]
  | (k, v) :: rest =>
    if name < k then (name, value) :: (k, v) :: rest
    else if name = k then (name, value) :: rest
    else (k, v) :: insertMember name value rest

mutual
/-- The value of a tree with at most `room` open levels. The members of an object are sorted by
name, and the last one of a name counts. -/
def value? (room : Nat) : Draft → Option Json
  | null => some .null
  | bool b => some (.bool b)
  | integer i => some (.integer i)
  | real x => some (.real x)
  | string s => some (.string s)
  | beyond => none
  | array items =>
    match room with
    | 0 => none
    | room + 1 => (values? room items).map .array
  | object members =>
    match room with
    | 0 => none
    | room + 1 => (memberValues? room members []).map .object

/-- The values of a sequence of trees. -/
def values? (room : Nat) : List Draft → Option (List Json)
  | [] => some []
  | item :: rest => do
    let v ← value? room item
    let vs ← values? room rest
    some (v :: vs)

/-- The members of an object, added to those already found. -/
def memberValues? (room : Nat) :
    List (Option String × Draft) → List (String × Json) → Option (List (String × Json))
  | [], found => some found
  | (key, item) :: rest, found => do
    let name ← key
    let v ← value? room item
    memberValues? room rest (insertMember name v found)
end

mutual
def ofJson : Json → Draft
  | .null => null
  | .bool b => bool b
  | .integer i => integer i
  | .real x => real x
  | .string s => string s
  | .array items => array (ofItems items)
  | .object members => object (ofMembers members)

def ofItems : List Json → List Draft
  | [] => []
  | v :: rest => ofJson v :: ofItems rest

def ofMembers : List (String × Json) → List (Option String × Draft)
  | [] => []
  | (k, v) :: rest => (some k, ofJson v) :: ofMembers rest
end

end Draft

/-- The value of a JSON text within the limits. -/
def parse? (input : List UInt8) : Option Json := do
  let draft ← Draft.read input
  draft.value? Draft.deepest

/-- The value of a JSON text within the limits. -/
def parseText? (text : String) : Option Json :=
  parse? (Utf8.encode text)

end FederatedAccess.Json
