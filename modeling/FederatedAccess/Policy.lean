import FederatedAccess.Rule
import FederatedAccess.Token.Issuer

/-!
# Access policies

A policy decides which of some tokens justify access (`Policy.satisfiedBy`); no token means denial.
A policy can only be built when it can be evaluated: the rule of an attribute-oriented policy has
readable patterns, and a federation has its home platform among its members.
-/

namespace FederatedAccess

/-- Texts in their order, each once. -/
abbrev TextSet := Catalog (id : String → String)

/-- The key that stands for the subject among the claims that a policy requires. -/
def subjectClaimKey : String := attributePrefix ++ "sub"

/-- Satisfied by what meets a rule. -/
structure AttributePolicy [Pattern.SizeLimit] where
  /-- The rule. -/
  rule : Rule
  /-- Its patterns. -/
  patterns : Rule.Patterns
  /-- The patterns are those of the rule. -/
  patterns_eq : rule.patterns = .ok patterns

/-- Satisfied by one token, either a home token of the home platform or a foreign token that a
member issued for the federation. -/
structure FederationPolicy where
  members : TextSet
  home : String
  federation : String
  named : home ≠ "" ∧ federation ≠ ""
  home_mem : members.contains home

/-- A policy that can be evaluated. -/
inductive Policy [Pattern.SizeLimit]
  /-- Satisfied by one token that carries all the required claims. -/
  | singleToken (claims : Dictionary String)
  | attributes (policy : AttributePolicy)
  | federation (policy : FederationPolicy)

namespace AttributePolicy

def ofRule [Pattern.SizeLimit] (rule : Rule) : Except PolicyArgumentError AttributePolicy :=
  match h : rule.patterns with
  | .ok patterns => .ok ⟨rule, patterns, h⟩
  | .error e => .error e

def satisfiedBy [Pattern.SizeLimit] (policy : AttributePolicy) (tokens : TokenSet) : TokenSet :=
  policy.rule.metWith policy.patterns tokens

end AttributePolicy

namespace FederationPolicy

def ofParts (members : TextSet) (home federation : String) :
    Except PolicyArgumentError FederationPolicy :=
  if members.isEmpty then .error .noMembers
  else if named : home ≠ "" ∧ federation ≠ "" then
    if home_mem : members.contains home then .ok ⟨members, home, federation, named, home_mem⟩
    else .error (.homeNotMember home)
  else .error .emptyIdentifier

/-- A home token of the home platform. -/
def isHomeToken (policy : FederationPolicy) (token : Token) : Bool :=
  token.tokenType = .home && token.issuer = policy.home

/-- A foreign token of a member that names the federation. -/
def isFederationToken (policy : FederationPolicy) (token : Token) : Bool :=
  token.tokenType = .foreign && policy.members.contains token.issuer &&
    token.claims.attributes.toList.any fun entry =>
      TokenIssuer.federationPrefix.toList.isPrefixOf entry.1.toList && entry.2 = policy.federation

/-- The tokens that satisfy the policy: the first suitable one. -/
def satisfiedBy (policy : FederationPolicy) (tokens : TokenSet) : TokenSet :=
  tokens.firstWith fun token => policy.isHomeToken token || policy.isFederationToken token

end FederationPolicy

namespace Policy

def carries (token : Token) (name value : String) : Bool :=
  if name = subjectClaimKey then token.subject = value else token.attribute? name = some value

def satisfiedBy [Pattern.SizeLimit] (policy : Policy) (tokens : TokenSet) : TokenSet :=
  match policy with
  | singleToken claims =>
    tokens.firstWith fun token => claims.toList.all fun claim => carries token claim.1 claim.2
  | attributes policy => policy.satisfiedBy tokens
  | federation policy => policy.satisfiedBy tokens

end Policy

end FederatedAccess
