import FederatedAccess.Json.Tagged
import FederatedAccess.Rule

/-!
# Wire form of access rules

A rule is a tagged form. Numbers are written as text with all their places; they may also be given
as JSON numbers.
-/

namespace FederatedAccess

/-! ## Numbers -/

/-- A decimal as it is read. A fraction counts as its positional text. -/
def Decimal.ofDraft? : Json.Draft → Option Decimal
  | .integer i => Decimal.ofInt? i.val
  | .real x => Decimal.ofPlain? x.positional
  | .string s => Decimal.ofText? s
  | _ => none

def Decimal.toJson (d : Decimal) : Json :=
  .string d.text

namespace Rule

/-! ## Writing -/

/-- The member that tells the kind of a rule. -/
def tag : String := "accessRuleType"

def kinds : List String := ["BOOLEAN", "NUMERIC", "STRING", "COMPOSITE"]

mutual
def toJson : Rule → Json
  | boolean name operator =>
    .object [(tag, .string "BOOLEAN"), ("attributeName", .string name),
      ("operator", .string operator.name)]
  | numeric name expected operator =>
    .object [(tag, .string "NUMERIC"), ("attributeName", .string name),
      ("expectedValue", expected.toJson), ("operator", .string operator.name)]
  | text name expected operator =>
    .object [(tag, .string "STRING"), ("attributeName", .string name),
      ("expectedValue", .string expected), ("operator", .string operator.name)]
  | composite rules operator =>
    .object [(tag, .string "COMPOSITE"), ("accessRules", .array (listToJson rules)),
      ("operator", .string operator.name)]

def listToJson : List Rule → List Json
  | [] => []
  | rule :: rest => toJson rule :: listToJson rest
end

/-! ## Reading -/

open Json.Draft

def operator? {α : Type} (all : List α) (name : α → String) (draft : Json.Draft) : Option α := do
  let found ← draft.innerName?
  all.find? fun operator => name operator = found

/-- A boolean rule without its tag. -/
def booleanOfDraft? (draft : Json.Draft) : Option Rule := do
  match ← draft.record? ["attributeName", "operator"] false deepest with
  | [name, operator] =>
    return boolean (← required text? name)
      (← required (operator? BooleanOperator.all BooleanOperator.name) operator)
  | _ => none

/-- A numeric rule without its tag. -/
def numericOfDraft? (draft : Json.Draft) : Option Rule := do
  match ← draft.record? ["attributeName", "expectedValue", "operator"] false deepest with
  | [name, expected, operator] =>
    return numeric (← required text? name) (← required Decimal.ofDraft? expected)
      (← required (operator? NumericOperator.all NumericOperator.name) operator)
  | _ => none

/-- A text rule without its tag. -/
def textOfDraft? (draft : Json.Draft) : Option Rule := do
  match ← draft.record? ["attributeName", "expectedValue", "operator"] false deepest with
  | [name, expected, operator] =>
    return text (← required text? name) (← required text? expected)
      (← required (operator? TextOperator.all TextOperator.name) operator)
  | _ => none

/-- A composite rule without its tag, given the reader of its parts. -/
def compositeOfDraft? (part? : Json.Draft → Option Rule) (draft : Json.Draft) : Option Rule := do
  match ← draft.record? ["accessRules", "operator"] false deepest with
  | [rules, operator] =>
    return composite (← defaulted [] (items? deepest part?) rules)
      (← required (operator? CompositeOperator.all CompositeOperator.name) operator)
  | _ => none

/-- A rule as it is read; `levels` bounds the nesting, and `inner` says that the rule stands inside
another tagged form. -/
def read? : Nat → Bool → Json.Draft → Option Rule
  | 0, _, _ => none
  | levels + 1, inner, draft => do
    let (found, rest) ← draft.tagged? tag
    match ← tagName? kinds inner found with
    | "BOOLEAN" => booleanOfDraft? rest
    | "NUMERIC" => numericOfDraft? rest
    | "STRING" => textOfDraft? rest
    | _ => compositeOfDraft? (read? levels true) rest

/-- A rule as it is read on its own. -/
def ofDraft? (draft : Json.Draft) : Option Rule :=
  if draft.withinLimits then read? deepest false draft else none

def ofText? (text : String) : Option Rule := do
  ofDraft? (← Json.Draft.readText text)

end Rule

end FederatedAccess
