import FederatedAccess.Distinct
import FederatedAccess.Text.Property

/-!
# Regular expressions

Expressions over characters with assertions about the place between two characters. A place in a
text is the number of characters before it. Matching works on sets of places: `reach` gives the
places where a match may end that starts in one of some given places. Nothing depends on which of
several matches is preferred.
-/

namespace FederatedAccess.Pattern

open Text

/-! ## Assertions -/

/-- What is asked of the two neighbours of a place, with regard to words. -/
inductive WordEdge
  /-- One of them belongs to a word. -/
  | boundary
  /-- Both belong to words, or neither. -/
  | noBoundary
  /-- Only the second belongs to a word. -/
  | opening
  /-- Only the first belongs to a word. -/
  | closing
  /-- The first does not belong to a word. -/
  | notAfterWord
  /-- The second does not belong to a word. -/
  | notBeforeWord
deriving DecidableEq, Repr

/-- A condition on a place in a text. -/
inductive Assertion
  | textStart
  | textEnd
  /-- The start of a line. With `crlf` lines end at carriage returns as well, and a pair of both is
  not torn apart. -/
  | lineStart (crlf : Bool)
  | lineEnd (crlf : Bool)
  /-- An edge of a word; with `ascii` of words in ASCII. -/
  | word (edge : WordEdge) (ascii : Bool)
deriving DecidableEq, Repr

/-- Whether the neighbours of a place, if they belong to words as given, satisfy a condition. -/
def WordEdge.holds (before after : Bool) : WordEdge → Bool
  | boundary => before != after
  | noBoundary => before == after
  | opening => !before && after
  | closing => before && !after
  | notAfterWord => !before
  | notBeforeWord => !after

/-- Whether a place has a character of a word beside it. -/
def besideWord (ascii : Bool) (neighbour : Option Char) : Bool :=
  match neighbour with
  | some c => (if ascii then asciiWordPoints else wordPoints).contains c
  | none => false

/-- Whether a place between two neighbours satisfies an assertion. -/
def Assertion.holds (before after : Option Char) : Assertion → Bool
  | textStart => before.isNone
  | textEnd => after.isNone
  | lineStart false => before.isNone || before == some '\n'
  | lineEnd false => after.isNone || after == some '\n'
  | lineStart true =>
    before.isNone || before == some '\n' || (before == some '\r' && after != some '\n')
  | lineEnd true =>
    after.isNone || after == some '\r' || (after == some '\n' && before != some '\r')
  | word edge ascii => edge.holds (besideWord ascii before) (besideWord ascii after)

/-! ## Expressions -/

/-- A regular expression. -/
inductive Node
  /-- Matches between any two characters. -/
  | empty
  /-- Matches one character of a set. -/
  | char (set : CharSet)
  | look (assertion : Assertion)
  /-- One expression after the other. -/
  | seq (a b : Node)
  /-- One expression or the other. -/
  | alt (a b : Node)
  /-- An expression several times, `most` being the limit if there is one. -/
  | rep (least : Nat) (most : Option Nat) (a : Node)

namespace Node

def ofSequence : List Node → Node
  | [] => empty
  | [a] => a
  | a :: rest => seq a (ofSequence rest)

def ofAlternatives : List Node → Node
  | [] => empty
  | [a] => a
  | a :: rest => alt a (ofAlternatives rest)

/-! ## Matching -/

/-- Takes a step `n` times. -/
def steps (step : List Nat → List Nat) : Nat → List Nat → List Nat
  | 0, places => places
  | n + 1, places => if places = [] then [] else steps step n (step places)

/-- Adds to the places `found` all that at most `n` steps lead to; `fresh` are those from which no
step has been taken. -/
def spread (step : List Nat → List Nat) : Nat → List Nat → List Nat → List Nat
  | 0, _, found => found
  | n + 1, fresh, found =>
    let next := (step fresh).filter fun i => !found.contains i
    if next = [] then found else spread step n next (found ++ next)

/-- The place after one character of a set. -/
def after? (text : Array Char) (set : CharSet) (i : Nat) : Option Nat :=
  match text[i]? with
  | some c => if set.contains c then some (i + 1) else none
  | none => none

def charBefore (text : Array Char) (i : Nat) : Option Char :=
  if i = 0 then none else text[i - 1]?

/-- The places where a match may end that starts in one of the given places. More repetitions than
the text has places lead nowhere else. -/
def reach (text : Array Char) : Node → List Nat → List Nat
  | empty, places => places
  | char set, places => places.filterMap (after? text set)
  | look assertion, places => places.filter fun i => assertion.holds (charBefore text i) text[i]?
  | seq a b, places => reach text b (reach text a places)
  | alt a b, places => distinct (reach text a places ++ reach text b places)
  | rep least most a, places =>
    let limit := text.size + 1
    let start := steps (reach text a) (min least limit) places
    match most with
    | some m => spread (reach text a) (min (m - least) limit) start start
    | none => spread (reach text a) limit start start

/-- Whether the expression matches a part of the text. -/
def occursIn (a : Node) (text : String) : Bool :=
  let chars := text.toList.toArray
  reach chars a (List.range (chars.size + 1)) ≠ []

end Node

end FederatedAccess.Pattern
