import FederatedAccess.Text.Property.Age
import FederatedAccess.Text.Property.Derived
import FederatedAccess.Text.Property.Script
import FederatedAccess.Text.Property.Segmentation

/-!
# Properties of characters

The sets of characters that the names of the Unicode standard stand for: binary properties, general
categories, scripts, versions and the parts that characters play where text is divided. Case,
blanks, hyphens and underscores in a name do not count, nor does `is` at its start.
-/

namespace FederatedAccess.Text

/-! ## Names -/

/-- The characters of a name that count. -/
def significantChars (name : List Char) : List Char :=
  (name.filter fun c => c.toNat < 0x80 && c ≠ ' ' && c ≠ '_' && c ≠ '-').map lowerAsciiChar
where
  /-- The small form of an ASCII capital. -/
  lowerAsciiChar (c : Char) : Char :=
    if 'A' ≤ c ∧ c ≤ 'Z' then Char.ofNat (c.toNat + 32) else c

/-- A name in the form in which the tables list it. -/
def listedName (name : List Char) : String :=
  match name with
  | i :: s :: rest =>
    if (i = 'i' ∨ i = 'I') ∧ (s = 's' ∨ s = 'S') then
      let stem := String.ofList (significantChars rest)
      if stem = "c" then "isc" else stem
    else String.ofList (significantChars name)
  | _ => String.ofList (significantChars name)

/-! ## General categories -/

/-- Groups of categories, which share the first letter of their names. -/
def categoryGroups : List (List String × List String) :=
  [(["l", "letter"], ["lu", "ll", "lt", "lm", "lo"]), (["lc", "casedletter"], ["lu", "ll", "lt"]),
    (["m", "mark", "combiningmark"], ["mn", "mc", "me"]), (["n", "number"], ["nd", "nl", "no"]),
    (["p", "punctuation", "punct"], ["pc", "pd", "ps", "pe", "pi", "pf", "po"]),
    (["s", "symbol"], ["sm", "sc", "sk", "so"]), (["z", "separator"], ["zs", "zl", "zp"])]

/-- The characters of a general category or a group of them. -/
def category? (name : String) : Option CharSet :=
  if name = "any" then some (.complement .empty)
  else if name = "assigned" then some (.complement unassigned)
  else if name = "ascii" then some (.points [(0, 0x7F)])
  else if name = "cn" ∨ name = "unassigned" then some unassigned
  else if name = "c" ∨ name = "other" then
    some (.union (.points (ofCategories ["cc", "cf", "co"])) unassigned)
  else match categoryGroups.find? fun group => group.1.contains name with
    | some group => some (.points (ofCategories group.2))
    | none => (NamedPoints.find? categories name).map .points

/-! ## Scripts -/

def script? (name : String) : Option CharSet :=
  (NamedPoints.find? scripts name).map .points

/-- The characters that are used with a script. -/
def scriptExtensions? (name : String) : Option CharSet := do
  let own ← NamedPoints.find? scripts name
  let further := (NamedPoints.find? scriptExtras name).getD []
  let lost := (NamedPoints.find? scriptLosses name).getD []
  some (.diff (.points (own ++ further)) (.points lost))

/-! ## Binary properties -/

/-- The properties that follow from others, with their names. -/
def derivedProperties : NamedSets :=
  [(["alpha", "alphabetic"], .points alphabeticPoints),
    (["lower", "lowercase"], .points lowercasePoints),
    (["upper", "uppercase"], .points uppercasePoints),
    (["cased"], .points casedPoints), (["ci", "caseignorable"], .points caseIgnorablePoints),
    (["wspace", "whitespace", "space"], .points blankPoints), (["ids", "idstart"], startSet),
    (["idc", "idcontinue"], continueSet),
    (["xids", "xidstart"], .diff startSet (.points unstableStartPoints)),
    (["xidc", "xidcontinue"], .diff continueSet (.points unstableContinuePoints)),
    (["grext", "graphemeextend"], .points graphemeExtendPoints),
    (["grbase", "graphemebase"], graphemeBaseSet),
    (["math"], .points (ofCategories ["sm"] ++ otherMathPoints))]

def binaryProperty? (name : String) : Option CharSet :=
  (namedSet? derivedProperties name).or ((NamedPoints.find? tabledProperties name).map .points)

/-! ## Look-up -/

/-- The characters of a property, a category or a script, whichever has the name first. -/
def property? (name : List Char) : Option CharSet :=
  let listed := listedName name
  (binaryProperty? listed).or ((category? listed).or (script? listed))

/-- The properties with values, with their names and what a value stands for. -/
def valuedProperties : List (List String × (String → Option CharSet)) :=
  [(["gc", "generalcategory"], category?), (["sc", "script"], script?),
    (["scx", "scriptextensions"], scriptExtensions?),
    (["age"], fun value => (pointsOfVersion? value versions).map .points),
    (["gcb", "graphemeclusterbreak"], namedSet? graphemeParts),
    (["wb", "wordbreak"], namedSet? wordParts), (["sb", "sentencebreak"], namedSet? sentenceParts)]

/-- The characters for which a property has a value. -/
def propertyValue? (name value : List Char) : Option CharSet := do
  let property ← valuedProperties.find? fun entry => entry.1.contains (listedName name)
  property.2 (listedName value)

end FederatedAccess.Text
