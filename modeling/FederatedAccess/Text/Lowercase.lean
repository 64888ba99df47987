import FederatedAccess.Text.CaseTable

/-!
# Lower case

Full lower-casing without a locale. One rule looks beyond its character: a capital sigma at the end
of a word becomes the final form.
-/

namespace FederatedAccess.Text

/-- The lower-case form of an ASCII capital, every other character as it is. -/
def lowerAscii (c : Char) : Char :=
  if 'A' ≤ c ∧ c ≤ 'Z' then Char.ofNat (c.toNat + 32) else c

/-- The lower-case form of a single character, without regard to its neighbours. -/
def lowerChar (c : Char) : List Char :=
  if c.toNat < 0x80 then [lowerAscii c]
  else if c = 'İ' then ['i', '\u0307']
  else match lowerRuns.findSome? (·.lower? c.toNat) with
    | some v => [Char.ofNat v]
    | none => [c]

/-- Whether the nearest character that counts for case is a letter with case. -/
def facesCased (chars : List Char) : Bool :=
  match chars.dropWhile caseIgnorablePoints.contains with
  | c :: _ => casedPoints.contains c
  | [] => false

/-- Lower-case forms in context; `before` holds the characters already passed, nearest first. -/
def lowerFrom (before : List Char) : List Char → List Char
  | [] => []
  | c :: rest =>
    let here :=
      if c = 'Σ' then if facesCased before && !facesCased rest then ['ς'] else ['σ']
      else lowerChar c
    here ++ lowerFrom (c :: before) rest

def lowercase (text : String) : String :=
  String.ofList (lowerFrom [] text.toList)

/-- Equality of texts when the case of ASCII letters does not count. -/
def eqIgnoringAsciiCase (a b : String) : Bool :=
  a.toList.map lowerAscii == b.toList.map lowerAscii

end FederatedAccess.Text
