/-!
# Trees of settings

Settings as they are found in a file or in the environment, before anyone asks what they mean. Later
sources are laid over earlier ones: groups are merged name by name, everything else is replaced.
-/

namespace FederatedAccess

/-- A setting. -/
inductive Setting
  /-- Nothing where something might stand. -/
  | missing
  | bool (b : Bool)
  /-- A number. No setting of this library takes one, so its value is not kept. -/
  | number
  | text (s : String)
  | list (items : List Setting)
  | group (entries : List (String × Setting))

namespace Setting

instance : Inhabited Setting := ⟨missing⟩

/-- The entries with a setting for a name, which takes the place of an earlier one. -/
def replace (name : String) (value : Setting) :
    List (String × Setting) → List (String × Setting)
  | [] => [(name, value)]
  | (k, v) :: rest => if k = name then (k, value) :: rest else (k, v) :: replace name value rest

/-- The group of some entries; of two with one name the later stays. -/
def ofEntries (entries : List (String × Setting)) : Setting :=
  group (entries.foldl (fun found entry => replace entry.1 entry.2 found) [])

mutual
/-- A setting with another one laid over it. -/
def overlaid (lower : Setting) : Setting → Setting
  | group entries =>
    match lower with
    | group below => group (overlaidEntries below entries)
    | _ => group entries
  | upper => upper

/-- Entries with others laid over them. -/
def overlaidEntries (below : List (String × Setting)) :
    List (String × Setting) → List (String × Setting)
  | [] => below
  | (name, upper) :: rest =>
    let value :=
      match below.lookup name with
      | some lower => overlaid lower upper
      | none => upper
    overlaidEntries (replace name value below) rest
end

/-- A setting inside groups of the given names. -/
def nested : List String → Setting → Setting
  | [], value => value
  | name :: rest, value => group [(name, nested rest value)]

end Setting

end FederatedAccess
