import FederatedAccess.Policy
import FederatedAccess.Rule.WireForm

/-!
# Policy specifiers

A specifier is a policy as it is stored and exchanged. It may be incomplete; `toPolicy` is the only
way to a policy that can be evaluated, and `ofPolicy` leads back to the specifier.
-/

namespace FederatedAccess

/-- A policy as it is stored. -/
inductive PolicySpecifier
  | singleToken (claims : Dictionary String)
  | attributes (rule : Rule)
  | federation (members : TextSet) (home federation : String)
deriving DecidableEq

namespace PolicySpecifier

def toPolicy [Pattern.SizeLimit] : PolicySpecifier → Except PolicyArgumentError Policy
  | singleToken claims => .ok (.singleToken claims)
  | attributes rule => (AttributePolicy.ofRule rule).map .attributes
  | federation members home name =>
    (FederationPolicy.ofParts members home name).map .federation

def ofPolicy [Pattern.SizeLimit] : Policy → PolicySpecifier
  | .singleToken claims => singleToken claims
  | .attributes policy => attributes policy.rule
  | .federation policy => federation policy.members policy.home policy.federation

/-! ## Wire form -/

/-- The member that tells the kind of a policy. -/
def tag : String := "policyType"

def kinds : List String := ["STAP", "AOAP", "SFTAP"]

def toJson : PolicySpecifier → Json
  | singleToken claims =>
    .object [(tag, .string "STAP"), ("requiredClaims", .object (claims.mapValues .string).toList)]
  | attributes rule => .object [(tag, .string "AOAP"), ("accessRules", rule.toJson)]
  | federation members home name =>
    .object [(tag, .string "SFTAP"), ("federationMembers", .array (members.toList.map .string)),
      ("homePlatformIdentifier", .string home), ("federationIdentifier", .string name)]

open Json.Draft

/-- A single-token policy without its tag. -/
def singleTokenOfDraft? (draft : Json.Draft) : Option PolicySpecifier := do
  match ← draft.record? ["requiredClaims"] false deepest with
  | [claims] =>
    return singleToken (← defaulted Catalog.empty (dictionary? deepest text?) claims)
  | _ => none

/-- An attribute-oriented policy without its tag. -/
def attributesOfDraft? (draft : Json.Draft) : Option PolicySpecifier := do
  match ← draft.record? ["accessRules"] false deepest with
  | [rule] => return attributes (← required (Rule.read? deepest true) rule)
  | _ => none

/-- A federation's policy without its tag. -/
def federationOfDraft? (draft : Json.Draft) : Option PolicySpecifier := do
  match ← draft.record? ["federationMembers", "homePlatformIdentifier", "federationIdentifier"]
    false deepest with
  | [members, home, name] =>
    return federation (Catalog.ofList (← defaulted [] (items? deepest text?) members))
      (← defaulted "" text? home) (← defaulted "" text? name)
  | _ => none

def ofDraft? (draft : Json.Draft) : Option PolicySpecifier := do
  if !draft.withinLimits then none
  else
    let (found, rest) ← draft.tagged? tag
    match ← tagName? kinds false found with
    | "STAP" => singleTokenOfDraft? rest
    | "AOAP" => attributesOfDraft? rest
    | _ => federationOfDraft? rest

def ofText? (text : String) : Option PolicySpecifier := do
  ofDraft? (← Json.Draft.readText text)

end PolicySpecifier

/-- Why a policy cannot be used. -/
inductive PolicyError
  /-- It cannot be evaluated. -/
  | invalidArguments (cause : PolicyArgumentError)
  /-- Its stored form cannot be read. -/
  | invalidSpecifier
deriving DecidableEq, Repr

/-- The wording of an error; where the cause has a reason of its own, it would follow. -/
def PolicyError.message : PolicyError → String
  | invalidArguments cause => "invalid policy arguments: " ++ cause.message
  | invalidSpecifier => "invalid policy specifier: "

/-- The specifier of a JSON text, or why there is none. -/
def PolicySpecifier.ofText (text : String) : Except PolicyError PolicySpecifier :=
  match ofText? text with
  | some specifier => .ok specifier
  | none => .error .invalidSpecifier

def Policy.ofDraft [Pattern.SizeLimit] (draft : Json.Draft) : Except PolicyError Policy :=
  match PolicySpecifier.ofDraft? draft with
  | some specifier => specifier.toPolicy.mapError .invalidArguments
  | none => .error .invalidSpecifier

end FederatedAccess
