import FederatedAccess.Json.Record

/-!
# Reading tagged forms

A tagged form says by one of its members, the tag, which record the other members make up. As an
array it starts with the tag. Since the tag may come last, a tagged form is read as a whole first,
so that all limits apply to it (`withinLimits`).
-/

namespace FederatedAccess.Json.Draft

/-- Whether a tree is a value within the limits. -/
def withinLimits (draft : Draft) : Bool :=
  (draft.value? deepest).isSome

/-- The tag of a form, and the rest of the form. -/
def tagged? (tag : String) : Draft → Option (Draft × Draft)
  | object members =>
    match members.filter fun m => m.1 == some tag with
    | [found] => some (found.2, object (members.filter fun m => m.1 != some tag))
    | _ => none
  | array (found :: rest) => some (found, array rest)
  | _ => none

/-- One of several names as a tag. A form inside another form may give its position instead. -/
def tagName? (names : List String) (inner : Bool) : Draft → Option String
  | string s => if names.contains s then some s else none
  | integer i => if inner ∧ 0 ≤ i.val then names[i.val.toNat]? else none
  | _ => none

/-- One of several names inside a tagged form: written as text, or as the only member of an object,
whose value is `null` or an empty object. -/
def innerName? : Draft → Option String
  | string s => some s
  | object [(some name, null)] => some name
  | object [(some name, object [])] => some name
  | _ => none

end FederatedAccess.Json.Draft
