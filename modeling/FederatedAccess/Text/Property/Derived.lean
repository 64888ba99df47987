import FederatedAccess.Text.Blank
import FederatedAccess.Text.CharSet
import FederatedAccess.Text.Property.Binary
import FederatedAccess.Text.Property.Category

/-!
# Derived sets of characters

The sets of characters that the standard defines by others: unions of general categories, and the
properties that add a few characters to such a union.
-/

namespace FederatedAccess.Text

/-- Sets of characters under one or more names. -/
abbrev NamedSets := List (List String × CharSet)

def namedSet? (table : NamedSets) (name : String) : Option CharSet :=
  (table.find? fun entry => entry.1.contains name).map Prod.snd

/-! ## General categories -/

/-- The characters of the categories whose short names are listed. -/
def ofCategories (names : List String) : CodePoints :=
  names.flatMap fun name => (NamedPoints.find? categories name).getD []

/-- The characters of all categories but one kind: those to which the standard assigns nothing. -/
def unassigned : CharSet :=
  .complement (.points (categories.flatMap NamedPoints.points))

/-! ## Letters and case -/

/-- Letters and other characters that are read as letters (`Alphabetic`). -/
def alphabeticPoints : CodePoints :=
  ofCategories ["lu", "ll", "lt", "lm", "lo", "nl"] ++ otherAlphabeticPoints

/-- Small letters and what counts as such. -/
def lowercasePoints : CodePoints :=
  ofCategories ["ll"] ++ otherLowercasePoints

def uppercasePoints : CodePoints :=
  ofCategories ["lu"] ++ otherUppercasePoints

/-! ## Identifiers -/

def startSet : CharSet :=
  .diff (.points (ofCategories ["lu", "ll", "lt", "lm", "lo", "nl"] ++ otherStartPoints))
    (.points noStartPoints)

def continueSet : CharSet :=
  .union startSet (.points (ofCategories ["mn", "mc", "nd", "pc"] ++ otherContinuePoints))

/-! ## Graphemes -/

def graphemeExtendPoints : CodePoints :=
  ofCategories ["mn", "me"] ++ otherGraphemeExtendPoints

def graphemeBaseSet : CharSet :=
  .complement (.union unassigned
    (.points (ofCategories ["cc", "cf", "co", "zl", "zp"] ++ graphemeExtendPoints)))

/-! ## Classes of characters -/

def wordPoints : CodePoints :=
  alphabeticPoints ++ ofCategories ["mn", "mc", "me", "nd", "pc"] ++ [(0x200C, 0x200D)]

def digitPoints : CodePoints :=
  ofCategories ["nd"]

def alphanumericPoints : CodePoints :=
  alphabeticPoints ++ ofCategories ["nd", "nl", "no"]

def asciiWordPoints : CodePoints :=
  [(0x30, 0x39), (0x41, 0x5A), (0x5F, 0x5F), (0x61, 0x7A)]

end FederatedAccess.Text
