import FederatedAccess.Json.Draft
import FederatedAccess.Catalog

/-!
# Reading records

A record is read from an object by the names of its members, or from an array by their positions. A
member may be absent when it has a default. A name that the record does not declare is skipped over
or, by a strict record, refused; a declared name that comes twice is always refused.

`room` is the number of levels of arrays and objects that may still be open.
-/

namespace FederatedAccess.Json.Draft

/-- The members of an object that a record declares, in its order. -/
def declared? (names : List String) (strict : Bool) (members : List (Option String × Draft)) :
    Option (List (Option Draft)) :=
  let keys := members.map Prod.fst
  if keys.any Option.isNone then none
  else if names.any fun name => 1 < keys.count (some name) then none
  else if strict && keys.any fun key => !(names.map some).contains key then none
  else some (names.map fun name => (members.find? fun m => m.1 == some name).map Prod.snd)

/-- The members of a record in its order, each present or absent. -/
def record? (names : List String) (strict : Bool) (room : Nat) :
    Draft → Option (List (Option Draft))
  | object members => if room = 0 then none else declared? names strict members
  | array items =>
    if room = 0 ∨ names.length < items.length then none
    else some ((List.range names.length).map fun i => items[i]?)
  | _ => none

/-- A member that must be present. -/
def required {α : Type} (reader : Draft → Option α) (member : Option Draft) : Option α :=
  member.bind reader

/-- A member that has a default. -/
def defaulted {α : Type} (default : α) (reader : Draft → Option α) : Option Draft → Option α
  | none => some default
  | some d => reader d

def text? : Draft → Option String
  | string s => some s
  | _ => none

def bool? : Draft → Option Bool
  | bool b => some b
  | _ => none

def int64? : Draft → Option Int64
  | integer i => i.int64?
  | _ => none

/-- A text or `null`. -/
def optionalText? : Draft → Option (Option String)
  | null => some none
  | string s => some (some s)
  | _ => none

def items? {α : Type} (room : Nat) (reader : Draft → Option α) : Draft → Option (List α)
  | array items => if room = 0 then none else items.mapM reader
  | _ => none

/-- The members of an object as a dictionary; the last one of a name counts. -/
def dictionary? {α : Type} (room : Nat) (reader : Draft → Option α) :
    Draft → Option (Dictionary α)
  | object members =>
    if room = 0 then none
    else do
      let entries ← members.mapM fun member => do
        let name ← member.1
        let value ← reader member.2
        some (name, value)
      some (Catalog.ofList entries)
  | _ => none

/-- One of several names: written as text, or as the only member of an object, whose value is
`null`. -/
def name? (room : Nat) : Draft → Option String
  | string s => some s
  | object [(some name, null)] => if room = 0 then none else some name
  | _ => none

end FederatedAccess.Json.Draft
