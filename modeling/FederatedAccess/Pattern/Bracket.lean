import FederatedAccess.Pattern.Escape

/-!
# Bracketed classes of regular expressions

A class in square brackets joins characters, ranges, named classes and other bracketed classes. Two
classes can also be intersected, subtracted or compared; these operations have no precedence over
each other and are applied from left to right.
-/

namespace FederatedAccess.Pattern

open Text

/-- A class with the number of levels that its expression nests. -/
structure Bracket where
  set : CharSet
  depth : Nat

namespace Bracket

/-- How two classes are combined. -/
inductive Operation
  | intersection | difference | symmetricDifference
deriving DecidableEq, Repr

/-- The members of a class, the last one first. -/
def ofMembers : List Bracket → Bracket
  | [] => ⟨.empty, 0⟩
  | [a] => a
  | a :: rest =>
    let all := a :: rest
    ⟨all.foldr (fun b s => .union s b.set) .empty, (all.map Bracket.depth).foldl max 0 + 1⟩

/-- A class, closed under case if case does not count. -/
def closed (flags : Flags) (s : CharSet) : CharSet :=
  if flags.caseless then .folded (!flags.unicode) s else s

def Operation.apply (flags : Flags) (operation : Operation) (a b : Bracket) : Bracket :=
  let x := closed flags a.set
  let y := closed flags b.set
  let set :=
    match operation with
    | intersection => CharSet.inter x y
    | difference => CharSet.diff x y
    | symmetricDifference => CharSet.symDiff x y
  ⟨set, max a.depth b.depth + 1⟩

/-- What has been read of a class: the left side of a pending operation, and the members since. -/
structure Partial where
  /-- The left side of an operation that waits for its right side. -/
  pending : Option (Bracket × Operation) := none
  /-- The members of the present side, the last one first. -/
  members : List Bracket := []

def Partial.bracket (flags : Flags) (p : Partial) : Bracket :=
  match p.pending with
  | none => ofMembers p.members
  | some (left, operation) => operation.apply flags left (ofMembers p.members)

def Partial.add (p : Partial) (member : Bracket) : Partial :=
  { p with members := member :: p.members }

/-- Starts the right side of an operation. -/
def Partial.operate (flags : Flags) (p : Partial) (operation : Operation) : Partial where
  pending := some (p.bracket flags, operation)
  members := []

/-! ## Members -/

def asciiClasses : List (String × CodePoints) :=
  [("alnum", [(0x30, 0x39), (0x41, 0x5A), (0x61, 0x7A)]), ("alpha", [(0x41, 0x5A), (0x61, 0x7A)]),
    ("ascii", [(0x00, 0x7F)]), ("blank", [(0x09, 0x09), (0x20, 0x20)]),
    ("cntrl", [(0x00, 0x1F), (0x7F, 0x7F)]), ("digit", [(0x30, 0x39)]), ("graph", [(0x21, 0x7E)]),
    ("lower", [(0x61, 0x7A)]), ("print", [(0x20, 0x7E)]),
    ("punct", [(0x21, 0x2F), (0x3A, 0x40), (0x5B, 0x60), (0x7B, 0x7E)]),
    ("space", [(0x09, 0x0D), (0x20, 0x20)]), ("upper", [(0x41, 0x5A)]),
    ("word", asciiWordPoints), ("xdigit", [(0x30, 0x39), (0x41, 0x46), (0x61, 0x66)])]

/-- A class such as `[:alpha:]` or `[:^alpha:]` after its opening bracket: whether it is negated,
its characters, and what follows. -/
def asciiClass? (input : List Char) : Option (Bool × CodePoints × List Char) :=
  match input with
  | ':' :: rest =>
    let negated := rest.head? = some '^'
    let rest := if negated then rest.drop 1 else rest
    let name := rest.takeWhile (· ≠ ':')
    match rest.dropWhile (· ≠ ':') with
    | ':' :: ']' :: rest =>
      (asciiClasses.find? fun entry => entry.1.toList = name).map fun entry =>
        (negated, entry.2, rest)
    | _ => none
  | _ => none

/-- A part of a class that is no bracket: an escape or a character. -/
def atom? (flags : Flags) : List Char → Option (Atom × List Char)
  | [] => none
  | '\\' :: rest => escape? flags rest
  | c :: rest => some (.literal c, rest)

/-- A character that may stand in a class; without Unicode it must be ASCII. -/
def member? (flags : Flags) (c : Char) : Option Char :=
  if flags.unicode ∨ c.toNat < 0x80 then some c else none

/-- A character, a range or an escape, and what follows. A hyphen before the closing bracket or
before another hyphen makes no range. -/
def range? (flags : Flags) (input : List Char) : Option (CharSet × List Char) := do
  let (first, rest) ← atom? flags input
  let input := skip flags.spaced rest
  match input with
  | [] => none
  | c :: rest =>
    let next := lookAhead? flags.spaced rest
    if c ≠ '-' ∨ next = some ']' ∨ next = some '-' then
      match first with
      | .literal a => some (.single (← member? flags a), input)
      | .set s => some (s, input)
      | .look _ => none
    else
      let (last, rest) ← atom? flags (skip flags.spaced rest)
      match first, last with
      | .literal a, .literal b =>
        let low ← member? flags a
        let high ← member? flags b
        if low ≤ high then some (.points [(low.toNat, high.toNat)], rest) else none
      | _, _ => none

/-! ## Brackets -/

/-- Hyphens at the start of a class, each a member. -/
def openingHyphens (spaced : Bool) : Nat → Partial → List Char → Partial × List Char
  | 0, p, input => (p, input)
  | fuel + 1, p, input =>
    match input with
    | '-' :: rest => openingHyphens spaced fuel (p.add ⟨.single '-', 0⟩) (skip spaced rest)
    | _ => (p, input)

/-- What stands right after an opening bracket: whether the class is negated, the hyphens at its
start, and a closing bracket if it comes first, which is a member. -/
def opening (flags : Flags) (input : List Char) : Bool × Partial × List Char :=
  let input := skip flags.spaced input
  let negated := input.head? = some '^'
  let input := if negated then skip flags.spaced (input.drop 1) else input
  let (p, rest) := openingHyphens flags.spaced input.length {} input
  match rest with
  | ']' :: after =>
    if p.members.isEmpty then (negated, p.add ⟨.single ']', 0⟩, skip flags.spaced after)
    else (negated, p, rest)
  | _ => (negated, p, rest)

/-- The members of a class up to its closing bracket, and what follows; `fuel` bounds their number
and nesting. -/
def readMembers? (flags : Flags) : Nat → Partial → List Char → Option (Bracket × List Char)
  | 0, _, _ => none
  | fuel + 1, p, input =>
    match skip flags.spaced input with
    | [] => none
    | ']' :: rest => some (p.bracket flags, rest)
    | '&' :: '&' :: rest => readMembers? flags fuel (p.operate flags .intersection) rest
    | '-' :: '-' :: rest => readMembers? flags fuel (p.operate flags .difference) rest
    | '~' :: '~' :: rest => readMembers? flags fuel (p.operate flags .symmetricDifference) rest
    | '[' :: rest =>
      match asciiClass? rest with
      | some (negated, points, rest) => do
        let set ← finishSet? flags negated (.points points)
        readMembers? flags fuel (p.add ⟨set, 0⟩) rest
      | none => do
        let (negated, start, rest) := opening flags rest
        let (inner, rest) ← readMembers? flags fuel start rest
        let set ← finishSet? flags negated inner.set
        readMembers? flags fuel (p.add ⟨set, inner.depth + 1⟩) rest
    | input => do
      let (set, rest) ← range? flags input
      readMembers? flags fuel (p.add ⟨set, 0⟩) rest

/-- A class after its opening bracket, and what follows. -/
def read? (flags : Flags) (input : List Char) : Option (Bracket × List Char) := do
  let (negated, start, rest) := opening flags input
  let (inner, rest) ← readMembers? flags (rest.length + 1) start rest
  let set ← finishSet? flags negated inner.set
  some (⟨set, inner.depth + 1⟩, rest)

end Bracket

end FederatedAccess.Pattern
