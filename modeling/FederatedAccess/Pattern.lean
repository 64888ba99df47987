import FederatedAccess.Pattern.Group

/-!
# Patterns for whole texts

A pattern is written by the author of a rule and is meant for a whole text. It is read inside a
group between the two ends of the text, so a text matches when the expression occurs in it.

Before an expression can be matched it is compiled, and one that grows too large is refused. What is
too large depends on how the compiler works inside, so the limit is a parameter (`SizeLimit`) of
patterns and of everything that reads them.
-/

namespace FederatedAccess

/-- A pattern that can be matched. -/
structure Pattern where
  /-- The expression, the ends of the text included. -/
  node : Pattern.Node

namespace Pattern

/-- The expression of a pattern between the two ends of a text. -/
def anchored (pattern : String) : String :=
  "^(?:" ++ pattern ++ ")$"

/-- A limit on the size of compiled expressions. -/
class SizeLimit where
  /-- Whether the expression that a text spells can be compiled within the limit. -/
  admits : String → Bool

/-- No limit. Ordinary expressions are far below any limit and are admitted either way. -/
@[reducible] def SizeLimit.unlimited : SizeLimit where
  admits _ := true

def ofText? [SizeLimit] (pattern : String) : Option Pattern :=
  if SizeLimit.admits (anchored pattern) then (read? (anchored pattern)).map Pattern.mk else none

def matchesText (pattern : Pattern) (text : String) : Bool :=
  pattern.node.occursIn text

end Pattern

end FederatedAccess
