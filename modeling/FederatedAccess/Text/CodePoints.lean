/-!
# Sets of code points

A property of characters is kept as the ranges of code points that have it. Large tables are written
as text: code points in hexadecimal, alone (`AA`), as a range (`41-5A`), or as every second one of a
range (`100~136`), with blanks between them.
-/

namespace FederatedAccess

/-- A set of code points, as closed ranges. -/
abbrev CodePoints := List (Nat × Nat)

namespace CodePoints

def has (set : CodePoints) (v : Nat) : Bool :=
  set.any fun range => range.1 ≤ v && v ≤ range.2

def contains (set : CodePoints) (c : Char) : Bool :=
  set.has c.toNat

/-! ## Tables as text -/

/-- What stands in front of the number that is being read. -/
inductive Opening
  /-- Nothing: the number stands alone. -/
  | none
  /-- The start of a range. -/
  | range (first : Nat)
  /-- The start of a range of which every second code point counts. -/
  | alternating (first : Nat)

/-- The ranges that end with the number `v`. -/
def Opening.ranges (v : Nat) : Opening → CodePoints
  | none => [(v, v)]
  | range first => [(first, v)]
  | alternating first =>
    (List.range ((v - first) / 2 + 1)).map fun k => (first + 2 * k, first + 2 * k)

/-- The value of a capital hexadecimal digit. -/
def digitValue (c : Char) : Nat :=
  if c.toNat < 65 then c.toNat - 48 else c.toNat - 55

/-- The ranges of a table, `v` being the number read so far. -/
def ofChars (opening : Opening) (v : Nat) : List Char → CodePoints
  | [] => opening.ranges v
  | c :: rest =>
    if c = ' ' then opening.ranges v ++ ofChars .none 0 rest
    else if c = '-' then ofChars (.range v) 0 rest
    else if c = '~' then ofChars (.alternating v) 0 rest
    else ofChars opening (v * 16 + digitValue c) rest

/-- The ranges of a table of several lines. -/
def ofLines (lines : List String) : CodePoints :=
  lines.flatMap fun line => ofChars .none 0 line.toList

end CodePoints

/-- A set of code points under one or more names. -/
structure NamedPoints where
  /-- The names, in small letters without separators. -/
  names : List String
  /-- The code points. -/
  points : CodePoints

def NamedPoints.find? (table : List NamedPoints) (name : String) : Option CodePoints :=
  (table.find? fun entry => entry.names.contains name).map NamedPoints.points

end FederatedAccess
