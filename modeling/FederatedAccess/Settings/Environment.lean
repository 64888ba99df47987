import FederatedAccess.Number.Numeral
import FederatedAccess.Settings.Tree
import FederatedAccess.Text.Blank
import FederatedAccess.Text.Lowercase

/-!
# Settings from the environment

A variable whose name starts with a given prefix, in any case, is a setting; the rest of its name,
in small letters, tells where it belongs, `__` or a dot standing between group and member. Its value
is `true`, `false`, a number, a quoted text, a list in square brackets or a group in braces. What
has none of these forms is a text as it stands.
-/

namespace FederatedAccess.Environment

/-! ## Values -/

/-- A blank character between the parts of a value. -/
def isSpace (c : Char) : Bool :=
  c = ' ' || c = '\t' || c = '\n' || c = '\x0c' || c = '\r'

/-- A character that ends a bare value. -/
def isSeparator (c : Char) : Bool :=
  c = ',' || c = '\x7b' || c = '\x7d' || c = '[' || c = ']'

def isNameChar (c : Char) : Bool :=
  c.isAlphanum || c = '_' || c = '-'

/-- The value of a hexadecimal digit of either case. -/
def hexValue? (c : Char) : Option Nat :=
  if Numeral.isDigit c then some (Numeral.digitValue c)
  else if 'a' ≤ c ∧ c ≤ 'f' then some (c.toNat - 87)
  else if 'A' ≤ c ∧ c ≤ 'F' then some (c.toNat - 55)
  else none

/-- The character whose number is written with the given digits. -/
def charOfHex? (digits : List Char) : Option Char := do
  let v ← digits.foldlM (fun v c => (hexValue? c).map (v * 16 + ·)) 0
  if h : v.isValidChar then some (Char.ofNatAux v h) else none

/-- The characters of a quoted text up to its closing mark, and what follows. -/
def quoted? : Nat → List Char → Option (List Char × List Char)
  | 0, _ => none
  | fuel + 1, input =>
    let put := fun c rest => (quoted? fuel rest).map fun found => (c :: found.1, found.2)
    match input with
    | [] => none
    | '"' :: rest => some ([], rest)
    | '\\' :: 'u' :: rest => do
      if rest.length < 4 then none else put (← charOfHex? (rest.take 4)) (rest.drop 4)
    | '\\' :: 'U' :: rest => do
      if rest.length < 8 then none else put (← charOfHex? (rest.take 8)) (rest.drop 8)
    | '\\' :: c :: rest =>
      match c with
      | '"' | '\\' => put c rest
      | 'b' => put '\x08' rest
      | 'f' => put '\x0c' rest
      | 'n' => put '\n' rest
      | 'r' => put '\r' rest
      | 't' => put '\t' rest
      | _ => none
    | c :: rest => if (c.toNat < 0x20 ∧ c ≠ '\t') ∨ c = '\x7f' then none else put c rest

def bare (chars : List Char) : Setting :=
  let trimmed := Text.trimChars chars
  if trimmed.contains '.' ∧ Numeral.isReal trimmed then .number
  else match Numeral.nat? (Numeral.dropSign trimmed) with
    | some n =>
      let negative := trimmed.head? = some '-'
      if (!negative ∧ n < UInt64.size) ∨ (negative ∧ n ≤ 0x8000000000000000) then .number
      else .text (String.ofList trimmed)
    | none => .text (String.ofList trimmed)

/-- The name of a member of a group, bare or quoted. -/
def memberName? (input : List Char) : Option (List Char × List Char) :=
  match input with
  | '"' :: rest => quoted? (rest.length + 1) rest
  | _ =>
    match input.takeWhile isNameChar with
    | [] => none
    | name => some (name, input.dropWhile isNameChar)

def after? (word : String) (input : List Char) : Option (List Char) :=
  if word.toList.isPrefixOf input then some (input.drop word.toList.length) else none

mutual
/-- The value at the front, and what follows; `fuel` bounds nesting and number of parts. -/
def value? : Nat → List Char → Option (Setting × List Char)
  | 0, _ => none
  | fuel + 1, input => do
    let input := input.dropWhile isSpace
    let (found, rest) ←
      match after? "true" input, after? "false" input, input with
      | some rest, _, _ => some (Setting.bool true, rest)
      | _, some rest, _ => some (Setting.bool false, rest)
      | _, _, '\x7b' :: rest => (members? fuel rest []).map fun m => (.ofEntries m.1, m.2)
      | _, _, '[' :: rest => (items? fuel rest []).map fun m => (.list m.1, m.2)
      | _, _, '"' :: rest =>
        (quoted? (rest.length + 1) rest).map fun m => (.text (String.ofList m.1), m.2)
      | _, _, '\'' :: c :: '\'' :: rest => some (.text (String.singleton c), rest)
      | _, _, '\'' :: _ => none
      | _, _, _ =>
        let isContent := fun c => !isSeparator c
        some (bare (input.takeWhile isContent), input.dropWhile isContent)
    some (found, rest.dropWhile isSpace)

/-- The items of a list up to its closing bracket. -/
def items? : Nat → List Char → List Setting → Option (List Setting × List Char)
  | 0, _, _ => none
  | _ + 1, ']' :: rest, found => some (found, rest)
  | fuel + 1, input, found => do
    let (item, rest) ← value? fuel input
    match rest with
    | ',' :: rest => items? fuel rest (found ++ [item])
    | ']' :: rest => some (found ++ [item], rest)
    | _ => none

/-- The members of a group up to its closing brace. -/
def members? : Nat → List Char → List (String × Setting) →
    Option (List (String × Setting) × List Char)
  | 0, _, _ => none
  | _ + 1, '\x7d' :: rest, found => some (found, rest)
  | fuel + 1, input, found => do
    let (name, rest) ← memberName? (input.dropWhile isSpace)
    match rest.dropWhile isSpace with
    | '=' :: rest =>
      let (item, rest) ← value? fuel rest
      let found := found ++ [(String.ofList name, item)]
      match rest with
      | ',' :: rest => members? fuel rest found
      | '\x7d' :: rest => some (found, rest)
      | _ => none
    | _ => none
end

/-- The setting that the value of a variable stands for. -/
def settingOfText (text : String) : Setting :=
  match value? (2 * text.toList.length + 2) text.toList with
  | some (found, []) => found
  | _ => .text text

/-! ## Names -/

/-- The parts of a name between its separators. -/
def parts : List Char → List (List Char)
  | [] => [[]]
  | '_' :: '_' :: rest => [] :: parts rest
  | c :: rest =>
    if c = '.' then [] :: parts rest
    else match parts rest with
      | [] => [[c]]
      | part :: more => (c :: part) :: more

/-- Where a variable belongs, if it is a setting: its name without the prefix, in small letters. A
name with an empty part is none. -/
def path? (start name : String) : Option (List String) :=
  let head := name.toList.take start.toList.length
  if head.map Text.lowerAscii ≠ start.toList.map Text.lowerAscii then none
  else
    let found := parts ((name.toList.drop start.toList.length).map Text.lowerAscii)
    if found.any List.isEmpty then none else some (found.map String.ofList)

/-- The settings of the variables whose names start with a prefix. -/
def settings (start : String) (entries : List (String × String)) : Setting :=
  entries.foldl (fun found entry =>
    match path? start entry.1 with
    | some path => found.overlaid (.nested path (settingOfText entry.2))
    | none => found) (.group [])

end FederatedAccess.Environment
