import FederatedAccess.Credentials
import FederatedAccess.Policy

/-!
# Resolving policies against a request

Which resources a request opens, and which of its credentials justify each. Tokens are taken apart
but not validated here.
-/

namespace FederatedAccess

/-- The policies of some resources; a resource without one is open to everyone. -/
abbrev ResourcePolicies [Pattern.SizeLimit] := Dictionary (Option Policy)

/-- The open resources with the credentials that justify access. -/
abbrev ResolvedResources := Dictionary (List SecurityCredentials)

/-- Why a request cannot be resolved. -/
inductive ResolutionError
  /-- A presented text is not a token. -/
  | malformedToken (cause : MalformedToken)
deriving DecidableEq, Repr

def ResolutionError.message : ResolutionError → String
  | malformedToken cause => "presented token is malformed: " ++ cause.message

namespace Resolution

/-- The credentials of a request with their tokens. -/
def presented (request : SecurityRequest) :
    Except ResolutionError (List (Token × SecurityCredentials)) :=
  request.credentials.mapM fun credentials => do
    return (← (Token.parse credentials.token).mapError .malformedToken, credentials)

/-- Presented credentials under their tokens. Several may carry the same one. -/
abbrev ByToken := Catalog fun entry : Token × List SecurityCredentials => entry.1.text

namespace ByToken

/-- The credentials that carry a token, if it was presented. -/
def credentials? (groups : ByToken) (token : Token) : Option (List SecurityCredentials) :=
  (groups.find? token.text).map Prod.snd

def add (groups : ByToken) (token : Token) (credentials : SecurityCredentials) : ByToken :=
  groups.insert (token, (groups.credentials? token).getD [] ++ [credentials])

def ofList (found : List (Token × SecurityCredentials)) : ByToken :=
  found.foldl (fun groups entry => groups.add entry.1 entry.2) Catalog.empty

/-- The tokens that were presented. -/
def tokens (groups : ByToken) : TokenSet where
  toList := groups.toList.map Prod.fst
  sorted := List.pairwise_map.2 groups.sorted

end ByToken

/-- The credentials that justify access under a policy; `none` without any. -/
def justified? [Pattern.SizeLimit] (groups : ByToken) (policy : Policy) :
    Option (List SecurityCredentials) :=
  let satisfying := policy.satisfiedBy groups.tokens
  if satisfying.isEmpty then none
  else some (distinct (satisfying.toList.filterMap groups.credentials?).flatten)

/-- The credentials that open a resource, if it is opened. -/
def opened? [Pattern.SizeLimit] (request : SecurityRequest) (groups : ByToken) :
    Option Policy → Option (List SecurityCredentials)
  | none => some request.credentials
  | some policy => justified? groups policy

end Resolution

/-- The resources that a request opens, among some that are listed with their policies. A resource
whose policy no token satisfies is left out. -/
def SecurityRequest.resolveListed [Pattern.SizeLimit] (request : SecurityRequest)
    (listed : List (String × Option Policy)) : Except ResolutionError ResolvedResources := do
  let groups := Resolution.ByToken.ofList (← Resolution.presented request)
  return Catalog.ofList (listed.filterMap fun entry =>
    (Resolution.opened? request groups entry.2).map fun credentials => (entry.1, credentials))

/-- The resources that a request opens. -/
def SecurityRequest.resolve [Pattern.SizeLimit] (request : SecurityRequest)
    (policies : ResourcePolicies) :
    Except ResolutionError ResolvedResources :=
  request.resolveListed policies.toList

/-! ## Orders of the open resources

Neither the open resources nor the credentials of one have an order of their own. Whoever goes
through them may do so in any order. -/

/-- Every open resource once with all its credentials, in some order. -/
structure ResolvedResources.Lists (resolved : ResolvedResources)
    (visited : List (String × List SecurityCredentials)) : Prop where
  /-- The resources are those that are open. -/
  names_perm : (visited.map Prod.fst).Perm resolved.names
  /-- The credentials of each are those that open it. -/
  credentials_perm : ∀ entry ∈ visited,
    ∃ credentials, resolved.get? entry.1 = some credentials ∧ entry.2.Perm credentials

/-- An order in which open resources and the credentials of each are looked at. -/
structure VisitingOrder where
  /-- The resources with their credentials in this order. -/
  visit : ResolvedResources → List (String × List SecurityCredentials)
  /-- Nothing is left out or added. -/
  lists : ∀ resolved : ResolvedResources, resolved.Lists (visit resolved)

/-- Resources by their names, the credentials of each as they are listed. -/
def VisitingOrder.byName : VisitingOrder where
  visit := Catalog.toList
  lists _ :=
    { names_perm := .refl _
      credentials_perm := fun entry h => ⟨entry.2, Dictionary.get?_of_mem h, .refl _⟩ }

end FederatedAccess
