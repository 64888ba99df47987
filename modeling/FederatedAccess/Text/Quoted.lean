import FederatedAccess.Text.Property

/-!
# Quoted text

A text between quotes, on one line and without characters that a reader cannot see: those are
written by name or by their code point.
-/

namespace FederatedAccess.Text

/-- Characters that leave no mark of their own, the blank apart. -/
def invisibleSet : CharSet :=
  .diff (.union (.points (ofCategories ["cc", "cf", "co", "zl", "zp", "zs"])) unassigned)
    (.single ' ')

/-- Characters that are written by their code point: invisible ones and those that only change the
character before them. -/
def codePointSet : CharSet :=
  .union invisibleSet (.points graphemeExtendPoints)

def quotedChar (c : Char) : List Char :=
  if c = '\x00' then ['\\', '0']
  else if c = '\t' then ['\\', 't']
  else if c = '\n' then ['\\', 'n']
  else if c = '\r' then ['\\', 'r']
  else if c = '\\' then ['\\', '\\']
  else if c = '"' then ['\\', '"']
  else if ' ' < c ∧ c < '\x7f' then [c]
  else if codePointSet.contains c then
    '\\' :: 'u' :: '\x7b' :: Nat.toDigits 16 c.toNat ++ ['\x7d']
  else [c]

def quoted (text : String) : String :=
  String.ofList ('"' :: text.toList.flatMap quotedChar ++ ['"'])

end FederatedAccess.Text
