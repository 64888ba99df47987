import FederatedAccess.Aam.Call
import FederatedAccess.Configuration
import FederatedAccess.Policy.Resolution

/-!
# Errors of the handlers

Why an operation that may ask AAMs ends without a result. Each cause from a lower level is kept as
it is.
-/

namespace FederatedAccess

/-- Why an operation has no result. -/
inductive HandlerError
  /-- The settings cannot be read. -/
  | configuration
  /-- The name of a component is not of the form `component@platform`. -/
  | invalidComponentId (id : String)
  /-- An AAM that is needed is not among the available ones. -/
  | aamUnavailable (aamId : String)
  /-- The wallet holds nothing, or no home token, towards an AAM. -/
  | notLoggedIn (aamId : String)
  /-- A call to an AAM failed. -/
  | call (cause : CallError)
  /-- A presented text is not a token. -/
  | malformedToken (cause : MalformedToken)
  /-- A token has no status. -/
  | validation (cause : ValidationError)
  /-- A proof could not be checked. -/
  | proof (cause : ProofError)
  /-- A login request could not be made. -/
  | issuer (cause : IssuerError)
  /-- A certificate holds no key. -/
  | key (cause : KeyError)
  /-- Policies could not be resolved. -/
  | resolution (cause : ResolutionError)
deriving DecidableEq, Repr

/-- The wording of an error; where the cause has a reason of its own, it would follow. -/
def HandlerError.message : HandlerError → String
  | configuration => "invalid configuration: "
  | invalidComponentId id =>
    "component id '" ++ id ++ "' has bad form, must be componentId@platformId"
  | aamUnavailable aamId => "AAM '" ++ aamId ++ "' is not available"
  | notLoggedIn aamId => "no credentials for AAM '" ++ aamId ++ "' in the wallet"
  | call cause => "AAM request failed: " ++ cause.message
  | malformedToken cause => "malformed token: " ++ cause.message
  | validation cause => "token validation failed: " ++ cause.message
  | proof cause => "mutual authentication failed: " ++ cause.message
  | issuer cause => "token issuing failed: " ++ cause.message
  | key cause => "unusable key: " ++ cause.message
  | resolution cause => "access resolution failed: " ++ cause.message

/-- The configuration of a file, if there is one, with the environment laid over it. -/
def Configuration.load (file : Option String) (environment : List (String × String)) :
    Except HandlerError Configuration :=
  match load? file environment with
  | some configuration => .ok configuration
  | none => .error .configuration

end FederatedAccess
