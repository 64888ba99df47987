import FederatedAccess.Key.Certificate
import FederatedAccess.Json.Record

/-!
# Descriptors of authorization managers

An AAM (authentication and authorization manager) issues and validates the tokens of one platform.
Its descriptor says how to reach it, by which key it signs and which components it certifies.
-/

namespace FederatedAccess

namespace Certificate

def ofDraft? (draft : Json.Draft) : Option Certificate :=
  draft.text?.map Certificate.mk

def toJson (certificate : Certificate) : Json :=
  .string certificate.text

end Certificate

/-- The descriptor of an AAM. -/
structure Aam where
  /-- The name of the AAM, unique in the federation. -/
  id : String
  /-- Where it is reached. -/
  address : String
  /-- A name to show. -/
  friendlyName : String := ""
  /-- The certificate of its signing key. -/
  certificate : Certificate
  /-- The certificates of its components by name. -/
  components : Dictionary Certificate := Catalog.empty

namespace Aam

open Json.Draft in
def ofDraft? (room : Nat) (draft : Json.Draft) : Option Aam := do
  match ← draft.record? ["aamInstanceId", "aamAddress", "aamInstanceFriendlyName",
    "aamCACertificate", "componentCertificates"] false room with
  | [id, address, friendlyName, certificate, components] =>
    return {
      id := ← required text? id
      address := ← required text? address
      friendlyName := ← defaulted "" text? friendlyName
      certificate := ← required Certificate.ofDraft? certificate
      components :=
        ← defaulted Catalog.empty (dictionary? (room - 1) Certificate.ofDraft?) components }
  | _ => none

def toJson (aam : Aam) : Json :=
  .object [("aamInstanceId", .string aam.id), ("aamAddress", .string aam.address),
    ("aamInstanceFriendlyName", .string aam.friendlyName),
    ("aamCACertificate", aam.certificate.toJson),
    ("componentCertificates", .object (aam.components.mapValues Certificate.toJson).toList)]

end Aam

end FederatedAccess
