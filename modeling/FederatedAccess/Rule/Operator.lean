import FederatedAccess.Number.Decimal
import FederatedAccess.Text.Lowercase
import FederatedAccess.Text.Blank

/-!
# Operators of access rules

Each kind of rule compares one attribute of a token with what it expects. The value of an attribute
is a text; what cannot be read as the expected kind of value satisfies no operator.
-/

namespace FederatedAccess

/-! ## Truth values -/

/-- The comparison of a boolean rule. -/
inductive BooleanOperator
  | isTrue | isFalse
deriving DecidableEq, Repr

namespace BooleanOperator

def all : List BooleanOperator := [isTrue, isFalse]

def name : BooleanOperator → String
  | isTrue => "IS_TRUE"
  | isFalse => "IS_FALSE"

/-- Whether an attribute is the word for the truth value, in any case. -/
def holds (operator : BooleanOperator) (value : String) : Bool :=
  match operator with
  | isTrue => Text.eqIgnoringAsciiCase (Text.trim value) "true"
  | isFalse => Text.eqIgnoringAsciiCase (Text.trim value) "false"

end BooleanOperator

/-! ## Numbers -/

/-- The comparison of a numeric rule. -/
inductive NumericOperator
  | equals | notEquals | greaterThan | lessThan | greaterOrEqual | lessOrEqual
deriving DecidableEq, Repr

namespace NumericOperator

def all : List NumericOperator :=
  [equals, notEquals, greaterThan, lessThan, greaterOrEqual, lessOrEqual]

def name : NumericOperator → String
  | equals => "EQUALS"
  | notEquals => "NOT_EQUALS"
  | greaterThan => "GREATER_THAN"
  | lessThan => "LESS_THAN"
  | greaterOrEqual => "GREATER_OR_EQUAL"
  | lessOrEqual => "LESS_OR_EQUAL"

/-- Whether two numbers in a given order satisfy the operator. -/
def admits : NumericOperator → Ordering → Bool
  | equals, order => order == .eq
  | notEquals, order => order != .eq
  | greaterThan, order => order == .gt
  | lessThan, order => order == .lt
  | greaterOrEqual, order => order != .lt
  | lessOrEqual, order => order != .gt

/-- Whether an attribute is a number that stands in the relation to the expected one. -/
def holds (operator : NumericOperator) (value : String) (expected : Decimal) : Bool :=
  match Decimal.ofText? (Text.trim value) with
  | some actual => operator.admits (actual.compare expected)
  | none => false

end NumericOperator

/-! ## Texts -/

/-- How an attribute relates to an expected text. -/
inductive TextRelation
  | equals | contains | notContains | startsWith | endsWith
deriving DecidableEq, Repr

namespace TextRelation

def name : TextRelation → String
  | equals => "EQUALS"
  | contains => "CONTAINS"
  | notContains => "NOT_CONTAINS"
  | startsWith => "STARTS_WITH"
  | endsWith => "ENDS_WITH"

/-- Whether the characters of one text occur in a row in the other. -/
def occurs (part : List Char) : List Char → Bool
  | [] => part.isEmpty
  | c :: rest => part.isPrefixOf (c :: rest) || occurs part rest

/-- Whether an attribute relates to the expected text. -/
def holds (relation : TextRelation) (value expected : String) : Bool :=
  match relation with
  | equals => value = expected
  | contains => occurs expected.toList value.toList
  | notContains => !occurs expected.toList value.toList
  | startsWith => expected.toList.isPrefixOf value.toList
  | endsWith => expected.toList.isSuffixOf value.toList

end TextRelation

/-- The comparison of a text rule. -/
inductive TextOperator
  /-- A relation of texts; without regard to case when `caseless`. -/
  | compare (relation : TextRelation) (caseless : Bool)
  /-- The whole attribute matches the expected pattern. -/
  | pattern
deriving DecidableEq, Repr

namespace TextOperator

def all : List TextOperator :=
  [TextRelation.equals, .contains, .notContains, .startsWith, .endsWith].flatMap
    (fun relation => [compare relation false, compare relation true]) ++ [pattern]

def name : TextOperator → String
  | compare relation false => relation.name
  | compare relation true => relation.name ++ "_IGNORE_CASE"
  | pattern => "REGEXP"

/-- Whether an attribute satisfies a relation. Without regard to case both texts are compared in
lower case. -/
def compares (relation : TextRelation) (caseless : Bool) (value expected : String) : Bool :=
  if caseless then relation.holds (Text.lowercase value) (Text.lowercase expected)
  else relation.holds value expected

end TextOperator

/-! ## Combinations -/

/-- How a composite rule combines its parts. -/
inductive CompositeOperator
  /-- Every part must be met by some token; then all these tokens count. -/
  | and
  /-- The tokens that meet some part. -/
  | or
  /-- As `or`, but nothing when every part is met. -/
  | nand
  /-- All candidates when no part is met, else nothing. -/
  | nor
deriving DecidableEq, Repr

namespace CompositeOperator

def all : List CompositeOperator := [and, or, nand, nor]

def name : CompositeOperator → String
  | and => "AND"
  | or => "OR"
  | nand => "NAND"
  | nor => "NOR"

end CompositeOperator

end FederatedAccess
