import FederatedAccess.Pattern
import FederatedAccess.Rule.Operator
import FederatedAccess.Token.Compact

/-!
# Access rules

A rule is a tree whose leaves look at one attribute of each token. Its meaning is the set of tokens,
among some candidates, that justify access (`Rule.met`). A leaf is met by every token that carries
the attribute with a suitable value; a missing attribute meets nothing.

The patterns of a rule can be read once and kept (`Rule.patterns`); a pattern that is not kept is
read when it is needed, and one that cannot be read is met by no token. What can be read depends on
the limit on compiled expressions (`Pattern.SizeLimit`).
-/

namespace FederatedAccess

/-- An access rule. -/
inductive Rule
  | boolean (name : String) (operator : BooleanOperator)
  | numeric (name : String) (expected : Decimal) (operator : NumericOperator)
  | text (name expected : String) (operator : TextOperator)
  | composite (rules : List Rule) (operator : CompositeOperator)

instance : Inhabited Rule := ⟨.composite [] .or⟩

/-- Why a policy cannot be evaluated. -/
inductive PolicyArgumentError
  /-- A rule names no attribute. -/
  | emptyAttribute
  /-- The pattern of a rule on the attribute cannot be read. -/
  | invalidPattern (name : String)
  /-- A federation has no members. -/
  | noMembers
  /-- The home platform or the federation has no name. -/
  | emptyIdentifier
  /-- The home platform is no member of the federation. -/
  | homeNotMember (home : String)
deriving DecidableEq, Repr

/-- The wording of an error; where the cause has a reason of its own, it would follow. -/
def PolicyArgumentError.message : PolicyArgumentError → String
  | emptyAttribute => "access rule attribute name must not be empty"
  | invalidPattern name => "rule on '" ++ name ++ "' has an invalid pattern: "
  | noMembers => "federation must have at least one member"
  | emptyIdentifier => "home platform and federation identifiers must not be empty"
  | homeNotMember home => "home platform '" ++ home ++ "' is not a federation member"

namespace Rule

/-! ## Equality -/

mutual
def decEq : (a b : Rule) → Decidable (a = b)
  | boolean a o, boolean b p => decidable_of_iff (a = b ∧ o = p) (by simp)
  | numeric a x o, numeric b y p => decidable_of_iff (a = b ∧ x = y ∧ o = p) (by simp)
  | text a x o, text b y p => decidable_of_iff (a = b ∧ x = y ∧ o = p) (by simp)
  | composite a o, composite b p =>
    match decEqList a b with
    | isTrue h => decidable_of_iff (o = p) (by simp [h])
    | isFalse h => isFalse (by simp [h])
  | boolean .., numeric .. | boolean .., text .. | boolean .., composite .. => isFalse nofun
  | numeric .., boolean .. | numeric .., text .. | numeric .., composite .. => isFalse nofun
  | text .., boolean .. | text .., numeric .. | text .., composite .. => isFalse nofun
  | composite .., boolean .. | composite .., numeric .. | composite .., text .. => isFalse nofun

/-- Equality of lists of rules is decidable. -/
def decEqList : (a b : List Rule) → Decidable (a = b)
  | [], [] => isTrue rfl
  | [], _ :: _ | _ :: _, [] => isFalse nofun
  | a :: as, b :: bs =>
    match decEq a b, decEqList as bs with
    | isTrue h, isTrue hs => isTrue (by rw [h, hs])
    | isFalse h, _ => isFalse (by simp [h])
    | _, isFalse hs => isFalse (by simp [hs])
end

instance : DecidableEq Rule := decEq

/-! ## Patterns -/

/-- The patterns that have been read, by their texts. -/
abbrev Patterns := Dictionary Pattern

def checkAttribute (name : String) : Except PolicyArgumentError Unit :=
  if Text.isBlankText name then .error .emptyAttribute else .ok ()

mutual
/-- Checks a rule from left to right and adds its patterns to those already read. -/
def addPatterns [Pattern.SizeLimit] (found : Patterns) :
    Rule → Except PolicyArgumentError Patterns
  | boolean name _ | numeric name _ _ => do
    checkAttribute name
    return found
  | text name expected operator => do
    checkAttribute name
    if operator ≠ .pattern ∨ found.contains expected then return found
    match Pattern.ofText? expected with
    | some pattern => return found.put expected pattern
    | none => throw (.invalidPattern name)
  | composite rules _ => addPatternsOfAll found rules

/-- Checks rules one after the other and adds their patterns. -/
def addPatternsOfAll [Pattern.SizeLimit] (found : Patterns) :
    List Rule → Except PolicyArgumentError Patterns
  | [] => return found
  | rule :: rest => do addPatternsOfAll (← addPatterns found rule) rest
end

/-- The patterns of a rule, each once, provided that the rule can be evaluated. -/
def patterns [Pattern.SizeLimit] (rule : Rule) : Except PolicyArgumentError Patterns :=
  addPatterns Catalog.empty rule

def validate [Pattern.SizeLimit] (rule : Rule) : Except PolicyArgumentError Unit := do
  discard rule.patterns

/-! ## Meaning -/

/-- The tokens that carry an attribute with a suitable value. -/
def carrying (name : String) (suitable : String → Bool) (tokens : TokenSet) : TokenSet :=
  tokens.filter fun token =>
    match token.attribute? name with
    | some value => suitable value
    | none => false

/-- The tokens whose attribute matches a pattern. -/
def matching [Pattern.SizeLimit] (kept : Patterns) (name expected : String)
    (tokens : TokenSet) : TokenSet :=
  match (kept.get? expected).or (Pattern.ofText? expected) with
  | some pattern => carrying name pattern.matchesText tokens
  | none => Catalog.empty

def unionAll (sets : List TokenSet) : TokenSet :=
  sets.foldl Catalog.union Catalog.empty

/-- The tokens that meet a combination of rules, given the tokens that meet each of them. Without
rules, all of them are met and none of them is. -/
def combine (operator : CompositeOperator) (tokens : TokenSet) (met : List TokenSet) : TokenSet :=
  let allMet := met.all fun set => !set.isEmpty
  let noneMet := met.all fun set => set.isEmpty
  match operator with
  | .and => if allMet then unionAll met else Catalog.empty
  | .or => unionAll met
  | .nand => if allMet then Catalog.empty else unionAll met
  | .nor => if noneMet then tokens else Catalog.empty

mutual
/-- The tokens that meet a rule, with some patterns already read. -/
def metWith [Pattern.SizeLimit] (kept : Patterns) (tokens : TokenSet) : Rule → TokenSet
  | boolean name operator => carrying name operator.holds tokens
  | numeric name expected operator => carrying name (operator.holds · expected) tokens
  | text name expected (.compare relation caseless) =>
    carrying name (TextOperator.compares relation caseless · expected) tokens
  | text name expected .pattern => matching kept name expected tokens
  | composite rules operator => combine operator tokens (metEach kept tokens rules)

/-- The tokens that meet each of some rules. -/
def metEach [Pattern.SizeLimit] (kept : Patterns) (tokens : TokenSet) :
    List Rule → List TokenSet
  | [] => []
  | rule :: rest => metWith kept tokens rule :: metEach kept tokens rest
end

def met [Pattern.SizeLimit] (rule : Rule) (tokens : TokenSet) : TokenSet :=
  rule.metWith Catalog.empty tokens

end Rule

end FederatedAccess
