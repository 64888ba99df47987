import FederatedAccess.Aam
import FederatedAccess.Duration
import FederatedAccess.Proof.Possession
import FederatedAccess.Settings.Environment
import FederatedAccess.Settings.Yaml
import FederatedAccess.Token.Validator

/-!
# Configuration

How a component is set up: who it is, how it reaches its own AAM, and how it checks tokens and
proofs. Every setting has a default, and a name that is no setting is refused.
-/

namespace FederatedAccess

/-- Where the validity of presented tokens is decided. -/
inductive ValidationMode
  /-- By the AAM that issued a token, or the local one when that is not known. -/
  | remote
  /-- Here, by the certificates of the known AAMs. -/
  | offline
deriving DecidableEq, Repr

def ValidationMode.name : ValidationMode → String
  | remote => "remote"
  | offline => "offline"

/-- The settings of a component. -/
structure Configuration where
  /-- The component and its platform, `component@platform`. -/
  componentId : String := ""
  /-- Where the platform's own AAM is reached. -/
  localAddress : String := ""
  /-- The account by which the component gets its certificate and tokens. -/
  ownerUsername : String := ""
  /-- The password of that account. -/
  ownerPassword : String := ""
  /-- Where validity is decided. -/
  validationMode : ValidationMode := .remote
  /-- Whether remote validation always asks the local AAM. -/
  alwaysLocal : Bool := false
  /-- Whether, offline, the key in a token counts when its issuer is not known. -/
  trustEmbeddedKeys : Bool := false
  /-- How proofs are checked. -/
  authenticator : Authenticator := {}
  /-- How tokens are checked. -/
  validator : Validator := {}

namespace Configuration

/-- The start of the names of variables that override settings. -/
def environmentPrefix : String := "FEDAAM_"

def names : List String :=
  ["component_id", "local_aam_address", "component_owner_username", "component_owner_password",
    "validation_mode", "always_use_local_aam_for_validation", "trust_embedded_issuer_keys",
    "mutual_auth", "token_validator"]

end Configuration

/-! ## Reading -/

open Json.Draft

/-- A span of time as it is read. -/
def Duration.ofDraft? (draft : Json.Draft) : Option Duration := do
  ofText? (← draft.text?)

/-- The settings for proofs as they are read. -/
def Authenticator.ofDraft? (room : Nat) (draft : Json.Draft) : Option Authenticator := do
  match ← draft.record? ["freshness_threshold"] true room with
  | [freshness] =>
    return { freshness := ← defaulted ({} : Authenticator).freshness Duration.ofDraft? freshness }
  | _ => none

/-- The settings for proofs as they are written. -/
def Authenticator.toJson (a : Authenticator) : Json :=
  .object [("freshness_threshold", .string a.freshness.text)]

/-- The settings for tokens as they are read. -/
def Validator.ofDraft? (room : Nat) (draft : Json.Draft) : Option Validator := do
  match ← draft.record? ["expiration_leeway"] true room with
  | [leeway] =>
    return { leeway := ← defaulted ({} : Validator).leeway Duration.ofDraft? leeway }
  | _ => none

/-- The settings for tokens as they are written. -/
def Validator.toJson (v : Validator) : Json :=
  .object [("expiration_leeway", .string v.leeway.text)]

def ValidationMode.ofDraft? (room : Nat) (draft : Json.Draft) : Option ValidationMode := do
  match ← draft.name? room with
  | "remote" => return remote
  | "offline" => return offline
  | _ => none

namespace Configuration

def ofDraft? (room : Nat) (draft : Json.Draft) : Option Configuration := do
  match ← draft.record? names true room with
  | [componentId, address, username, password, mode, alwaysLocal, trust, proofs, tokens] =>
    return {
      componentId := ← defaulted "" text? componentId
      localAddress := ← defaulted "" text? address
      ownerUsername := ← defaulted "" text? username
      ownerPassword := ← defaulted "" text? password
      validationMode := ← defaulted .remote (ValidationMode.ofDraft? (room - 1)) mode
      alwaysLocal := ← defaulted false bool? alwaysLocal
      trustEmbeddedKeys := ← defaulted false bool? trust
      authenticator := ← defaulted {} (Authenticator.ofDraft? (room - 1)) proofs
      validator := ← defaulted {} (Validator.ofDraft? (room - 1)) tokens }
  | _ => none

/-! ## Loading -/

mutual
/-- A setting as a tree. Numbers are no values of settings. -/
def draftOfSetting : Setting → Json.Draft
  | .missing => .null
  | .bool b => .bool b
  | .number => .beyond
  | .text s => .string s
  | .list items => .array (draftsOfItems items)
  | .group entries => .object (draftsOfEntries entries)

def draftsOfItems : List Setting → List Json.Draft
  | [] => []
  | item :: rest => draftOfSetting item :: draftsOfItems rest

def draftsOfEntries : List (String × Setting) → List (Option String × Json.Draft)
  | [] => []
  | (name, item) :: rest => (some name, draftOfSetting item) :: draftsOfEntries rest
end

/-- A group given as a list: only the item for its single setting counts. -/
def firstItem : Setting → Setting
  | .list items => .list (items.take 1)
  | setting => setting

/-- The configuration of a tree of settings. -/
def ofSetting? : Setting → Option Configuration
  | .group entries =>
    let first := entries.map fun entry => (entry.1, firstItem entry.2)
    ofDraft? deepest (draftOfSetting (.group first))
  | _ => none

/-- The configuration of a file, if there is one, with the environment laid over it. -/
def load? (file : Option String) (environment : List (String × String)) :
    Option Configuration := do
  let below ← match file with
    | some text => Yaml.settings? text
    | none => some (.group [])
  ofSetting? (below.overlaid (Environment.settings environmentPrefix environment))

end Configuration

end FederatedAccess
