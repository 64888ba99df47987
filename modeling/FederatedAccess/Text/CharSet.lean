import FederatedAccess.Text.Folding

/-!
# Sets of characters

Sets of characters as expressions over tables of code points. Only membership is ever asked for, so
a set is kept as it is said, and `contains` follows its structure.
-/

namespace FederatedAccess.Text

/-- A set of characters. -/
inductive CharSet
  /-- The characters of a table. -/
  | points (table : CodePoints)
  | union (a b : CharSet)
  | inter (a b : CharSet)
  | diff (a b : CharSet)
  /-- The characters of one of both sets. -/
  | symDiff (a b : CharSet)
  /-- All other characters. -/
  | complement (a : CharSet)
  /-- The characters that differ from one of the set by case alone; with `ascii` the case of ASCII
  letters only. -/
  | folded (ascii : Bool) (a : CharSet)

namespace CharSet

/-- The empty set. -/
def empty : CharSet := points []

def single (c : Char) : CharSet := points [(c.toNat, c.toNat)]

def has : CharSet → Nat → Bool
  | points table, v => table.has v
  | union a b, v => a.has v || b.has v
  | inter a b, v => a.has v && b.has v
  | diff a b, v => a.has v && !b.has v
  | symDiff a b, v => a.has v != b.has v
  | complement a, v => !a.has v
  | folded ascii a, v => (if ascii then asciiFamily v else caseFamily v).any a.has

def contains (set : CharSet) (c : Char) : Bool :=
  set.has c.toNat

end CharSet

end FederatedAccess.Text
