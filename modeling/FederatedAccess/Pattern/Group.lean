import FederatedAccess.Pattern.Bracket

/-!
# Reading regular expressions

A regular expression is read from left to right, group by group. Flags that are set inside a group
hold to its end, across the alternatives that follow. Names of groups must be distinct, and the
nesting of the expression is limited.
-/

namespace FederatedAccess.Pattern

open Text

/-- A part of an expression. -/
structure Item where
  /-- What the part matches. -/
  node : Node
  /-- The levels that the part nests. -/
  depth : Nat := 0
  /-- Whether the part only sets flags, so that it cannot be repeated. -/
  isDirective : Bool := false

/-- Levels one above the deepest of several parts. -/
def above (items : List Item) : Nat :=
  (items.map Item.depth).foldl max 0 + 1

/-- Parts in a row, the last one first. -/
def Item.sequence : List Item → Item
  | [] => { node := .empty }
  | [item] => item
  | items => { node := .ofSequence (items.reverse.map Item.node), depth := above items }

/-- Alternatives, the last one first. -/
def Item.alternatives : List Item → Item
  | [item] => item
  | items => { node := .ofAlternatives (items.reverse.map Item.node), depth := above items }

/-- What is left to read, and what has been settled so far. -/
structure Scan where
  /-- The rest of the expression. -/
  rest : List Char
  /-- The flags that hold here. -/
  flags : Flags
  /-- The names of groups that are taken. -/
  names : List (List Char)

/-! ## Repetition -/

/-- A numeral and blank characters around it. -/
def count? (spaced : Bool) (input : List Char) : Option (Nat × List Char) :=
  let (digits, rest) := digitsOf (input.length + 1) (input.dropWhile isBlank)
  match Numeral.nat? digits with
  | some n => if n < UInt32.size then some (n, dropBlanks (rest.length + 1) rest) else none
  | none => none
where
  digitsOf : Nat → List Char → List Char × List Char
    | 0, input => ([], input)
    | fuel + 1, input =>
      match input with
      | [] => ([], [])
      | c :: rest =>
        if Numeral.isDigit c then
          let found := digitsOf fuel (skip spaced rest)
          (c :: found.1, found.2)
        else ([], c :: rest)
  dropBlanks : Nat → List Char → List Char
    | 0, input => input
    | fuel + 1, input =>
      match input with
      | [] => []
      | c :: rest => if isBlank c then dropBlanks fuel (skip spaced rest) else c :: rest

/-- The bounds of a counted repetition after its opening brace, and what follows the closing one. -/
def bounds? (spaced : Bool) (input : List Char) : Option (Nat × Option Nat × List Char) := do
  let (least, rest) ← count? spaced (skip spaced input)
  match rest with
  | '\x7d' :: rest => some (least, some least, rest)
  | ',' :: rest =>
    match skip spaced rest with
    | '\x7d' :: rest => some (least, none, rest)
    | rest =>
      let (most, rest) ← count? spaced rest
      match rest with
      | '\x7d' :: rest => if least ≤ most then some (least, some most, rest) else none
      | _ => none
  | _ => none

/-- Drops the mark that turns greed around. -/
def dropGreedMark : List Char → List Char
  | '?' :: rest => rest
  | rest => rest

/-- How often the part before a sign of repetition is to be matched, and what follows the sign. -/
def repetition? (spaced : Bool) (sign : Char) (rest : List Char) :
    Option (Nat × Option Nat × List Char) :=
  match sign with
  | '?' => some (0, some 1, dropGreedMark rest)
  | '*' => some (0, none, dropGreedMark rest)
  | '+' => some (1, none, dropGreedMark rest)
  | _ => (bounds? spaced rest).map fun found =>
      (found.1, found.2.1, dropGreedMark (skip spaced found.2.2))

def repeatLast? (least : Nat) (most : Option Nat) : List Item → Option (List Item)
  | [] => none
  | item :: items =>
    if item.isDirective then none
    else some ({ node := .rep least most item.node, depth := item.depth + 1 } :: items)

/-! ## Groups -/

/-- What follows an opening parenthesis. -/
inductive Opening
  /-- Flags for the rest of the present group. -/
  | directive (flags : Flags) (rest : List Char)
  /-- A group with its own flags; a name may have been taken. -/
  | group (flags : Flags) (names : List (List Char)) (rest : List Char)

/-- Whether a character may stand in the name of a group. -/
def isNameChar (first : Bool) (c : Char) : Bool :=
  if first then c = '_' || alphabeticPoints.contains c
  else c = '_' || c = '.' || c = '[' || c = ']' || alphanumericPoints.contains c

/-- The name of a group up to the closing bracket, and what follows. -/
def groupName? (names : List (List Char)) (input : List Char) : Option (List Char × List Char) :=
  let name := input.takeWhile (· ≠ '>')
  match name, input.dropWhile (· ≠ '>') with
  | c :: more, _ :: rest =>
    if isNameChar true c && more.all (isNameChar false) && !names.contains name then
      some (name, rest)
    else none
  | _, _ => none

/-- Reads what follows an opening parenthesis. Assertions about what stands further ahead or behind
are not supported, so `(?<` opens a named group. -/
def opening? (scan : Scan) (input : List Char) : Option Opening :=
  match skip scan.flags.spaced input with
  | '?' :: 'P' :: '<' :: rest | '?' :: '<' :: rest =>
    (groupName? scan.names rest).map fun found =>
      .group scan.flags (found.1 :: scan.names) found.2
  | '?' :: rest => do
    let found ← Flags.directive? scan.flags [] true rest
    if found.opensGroup then some (.group found.flags scan.names found.rest)
    else if found.isEmpty then none
    else some (.directive found.flags found.rest)
  | rest => some (.group scan.flags scan.names rest)

/-! ## Single parts -/

/-- What a character stands for by itself. -/
def literal (flags : Flags) (c : Char) : Node :=
  .char (if flags.caseless then .folded (!flags.unicode) (.single c) else .single c)

/-- What the dot stands for; without Unicode it would tear characters apart. -/
def dot? (flags : Flags) : Option Node :=
  if !flags.unicode then none
  else if flags.dotAll then some (.char (.complement .empty))
  else if flags.crlf then some (.char (.complement (.points [(0x0A, 0x0A), (0x0D, 0x0D)])))
  else some (.char (.complement (.points [(0x0A, 0x0A)])))

/-- The part of an expression that starts with `c` and is neither a group nor a repetition. -/
def primitive? (flags : Flags) (c : Char) (rest : List Char) : Option (Item × List Char) :=
  match c with
  | '\\' =>
    (escape? flags rest).map fun found =>
      match found.1 with
      | .literal c => ({ node := literal flags c }, found.2)
      | .set s => ({ node := .char s }, found.2)
      | .look assertion => ({ node := .look assertion }, found.2)
  | '[' => (Bracket.read? flags rest).map fun found =>
      ({ node := .char found.1.set, depth := found.1.depth }, found.2)
  | '.' => (dot? flags).map fun node => ({ node }, rest)
  | '^' =>
    some ({ node := .look (if flags.multiline then .lineStart flags.crlf else .textStart) }, rest)
  | '$' =>
    some ({ node := .look (if flags.multiline then .lineEnd flags.crlf else .textEnd) }, rest)
  | _ => some ({ node := literal flags c }, rest)

/-- Whether a character asks for the repetition of what stands before it. -/
def isRepetition (c : Char) : Bool :=
  c = '?' || c = '*' || c = '+' || c = '\x7b'

/-! ## Expressions -/

/-- Reads a group to its end, which is left in the rest. `branches` and `items` hold what has been
read, the last one first; `fuel` bounds the number of parts and their nesting. -/
def readGroup? : Nat → Scan → List Item → List Item → Option (Item × Scan)
  | 0, _, _, _ => none
  | fuel + 1, scan, branches, items =>
    let whole := Item.alternatives (Item.sequence items :: branches)
    match skip scan.flags.spaced scan.rest with
    | [] => some (whole, { scan with rest := [] })
    | c :: rest =>
      if c = ')' then some (whole, { scan with rest := c :: rest })
      else if c = '|' then
        readGroup? fuel { scan with rest } (Item.sequence items :: branches) []
      else if c = '(' then
        match opening? scan rest with
        | none => none
        | some (.directive flags rest) =>
          let directive : Item := { node := .empty, isDirective := true }
          readGroup? fuel { scan with rest, flags } branches (directive :: items)
        | some (.group flags names rest) => do
          let (inner, found) ← readGroup? fuel { rest, flags, names } [] []
          match found.rest with
          | ')' :: rest =>
            let group : Item := { node := inner.node, depth := inner.depth + 1 }
            readGroup? fuel { rest, flags := scan.flags, names := found.names } branches
              (group :: items)
          | _ => none
      else if isRepetition c then do
        let (least, most, rest) ← repetition? scan.flags.spaced c rest
        let items ← repeatLast? least most items
        readGroup? fuel { scan with rest } branches items
      else do
        let (item, rest) ← primitive? scan.flags c rest
        readGroup? fuel { scan with rest } branches (item :: items)

/-- The levels that an expression may nest. -/
def mostLevels : Nat := 250

/-- The expression that a text spells. -/
def read? (text : String) : Option Node := do
  let chars := text.toList
  let (item, scan) ← readGroup? (chars.length + 1) ⟨chars, {}, []⟩ [] []
  if scan.rest = [] ∧ item.depth ≤ mostLevels then some item.node else none

end FederatedAccess.Pattern
