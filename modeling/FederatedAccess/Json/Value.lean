import FederatedAccess.Number.Binary64

/-!
# JSON values

A JSON value as it is kept and written. Integers of 64 bits and fractions are different numbers, and
an object lists its members in the order in which they are written.
-/

namespace FederatedAccess

/-- An integer that a number of JSON can carry exactly: signed or unsigned, of 64 bits. -/
structure Json.Integer where
  /-- The integer. -/
  val : Int
  /-- It fits into a signed or an unsigned word. -/
  fits : -0x8000000000000000 ≤ val ∧ val < 0x10000000000000000 := by decide
deriving DecidableEq, Repr

/-- A JSON value. -/
inductive Json
  | null
  | bool (b : Bool)
  | integer (i : Json.Integer)
  | real (x : Binary64)
  | string (s : String)
  | array (items : List Json)
  | object (members : List (String × Json))

namespace Json

instance : Inhabited Json := ⟨null⟩

/-- The integer `i` as an exact number of JSON, if it is in range. -/
def Integer.ofInt? (i : Int) : Option Integer :=
  if h : -0x8000000000000000 ≤ i ∧ i < 0x10000000000000000 then some ⟨i, h⟩ else none

/-- A signed word as a number of JSON. -/
def Integer.ofInt64 (i : Int64) : Integer where
  val := i.toInt
  fits := by have := i.le_toInt; have := i.toInt_lt; omega

/-- The signed word that equals the integer. -/
def Integer.int64? (i : Integer) : Option Int64 :=
  if i.val < 0x8000000000000000 then some (Int64.ofInt i.val) else none

/-- The first member of a name. -/
def member? (name : String) : Json → Option Json
  | object members => (members.find? fun m => m.1 == name).map Prod.snd
  | _ => none

/-- An object of the members that are present. -/
def compact (members : List (Option (String × Json))) : Json :=
  object (members.filterMap id)

/-! ## Equality

Numbers compare as numbers, so the two zeros are equal; members compare in order. -/

def realEq (x y : Binary64) : Bool :=
  x = y || (x.significand = 0 && y.significand = 0)

mutual
def beq : Json → Json → Bool
  | null, null => true
  | bool a, bool b => a == b
  | integer a, integer b => a.val == b.val
  | real a, real b => realEq a b
  | string a, string b => a == b
  | array a, array b => beqItems a b
  | object a, object b => beqMembers a b
  | _, _ => false

def beqItems : List Json → List Json → Bool
  | [], [] => true
  | a :: as, b :: bs => beq a b && beqItems as bs
  | _, _ => false

def beqMembers : List (String × Json) → List (String × Json) → Bool
  | [], [] => true
  | (k, a) :: as, (l, b) :: bs => k == l && beq a b && beqMembers as bs
  | _, _ => false
end

instance : BEq Json := ⟨beq⟩

/-! ## Writing

Compact text: nothing between the parts, and an escape only where JSON demands one. -/

/-- The text of a character between quotation marks. -/
def escapeChar (c : Char) : List Char :=
  if c = '"' then ['\\', '"']
  else if c = '\\' then ['\\', '\\']
  else if c = '\x08' then ['\\', 'b']
  else if c = '\t' then ['\\', 't']
  else if c = '\n' then ['\\', 'n']
  else if c = '\x0c' then ['\\', 'f']
  else if c = '\r' then ['\\', 'r']
  else if c.toNat < 0x20 then
    let digit := fun v : Nat => if v < 10 then Char.ofNat (v + 48) else Char.ofNat (v + 87)
    ['\\', 'u', '0', '0', digit (c.toNat / 16), digit (c.toNat % 16)]
  else [c]

def stringChars (s : String) : List Char :=
  '"' :: (s.toList.flatMap escapeChar ++ ['"'])

/-- A fraction always shows a point or an exponent: positional from five places after the point up
to sixteen digits before it, scientific beyond. -/
def realChars (x : Binary64) : List Char :=
  let found := x.shortestDigits
  let digits := found.1.map Numeral.digitChar
  let point : Int := digits.length + found.2
  let magnitude :=
    if 0 ≤ found.2 ∧ point ≤ 16 then
      digits ++ List.replicate found.2.toNat '0' ++ ['.', '0']
    else if 0 < point ∧ point ≤ 16 then
      digits.take point.toNat ++ '.' :: digits.drop point.toNat
    else if -5 < point ∧ point ≤ 0 then
      '0' :: '.' :: (List.replicate (-point).toNat '0' ++ digits)
    else
      let power := 'e' :: Numeral.intChars (point - 1)
      match digits with
      | [d] => d :: power
      | d :: rest => d :: '.' :: (rest ++ power)
      | [] => power
  if x.negative then '-' :: magnitude else magnitude

mutual
def chars : Json → List Char
  | null => ['n', 'u', 'l', 'l']
  | bool true => ['t', 'r', 'u', 'e']
  | bool false => ['f', 'a', 'l', 's', 'e']
  | integer i => Numeral.intChars i.val
  | real x => realChars x
  | string s => stringChars s
  | array [] => ['[', ']']
  | array (v :: rest) => '[' :: (chars v ++ itemsChars rest)
  | object [] => ['\x7b', '\x7d']
  | object ((k, v) :: rest) =>
    '\x7b' :: (stringChars k ++ ':' :: (chars v ++ membersChars rest))

/-- The text of the items after the first, up to the closing bracket. -/
def itemsChars : List Json → List Char
  | [] => [']']
  | v :: rest => ',' :: (chars v ++ itemsChars rest)

/-- The text of the members after the first, up to the closing brace. -/
def membersChars : List (String × Json) → List Char
  | [] => ['\x7d']
  | (k, v) :: rest => ',' :: (stringChars k ++ ':' :: (chars v ++ membersChars rest))
end

def text (j : Json) : String :=
  String.ofList j.chars

end Json

end FederatedAccess
