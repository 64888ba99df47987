import FederatedAccess.Text.Property.Derived
import FederatedAccess.Text.Property.Script

/-!
# Division of text

The parts that characters play where text is divided into graphemes, words and sentences. Nearly all
of them follow from other properties; the tables hold what the standard lists one by one.
-/

namespace FederatedAccess.Text

/-- The characters of a table of properties by one of their names. -/
def ofProperty (name : String) : CodePoints :=
  (NamedPoints.find? tabledProperties name).getD []

def ofScript (name : String) : CodePoints :=
  (NamedPoints.find? scripts name).getD []

/-- The set of a table without that of another. -/
def pointsWithout (kept removed : CodePoints) : CharSet :=
  .diff (.points kept) (.points removed)

/-- The two characters that end a line together. -/
def lineEndPoints : CodePoints := [(0xA, 0xA), (0xD, 0xD)]

/-- The two characters that join their neighbours or keep them apart. -/
def joinControlPoints : CodePoints := [(0x200C, 0x200D)]

/-- Marks that an earlier character takes up where words and sentences are divided. -/
def attachedPoints : CodePoints :=
  graphemeExtendPoints ++ ofCategories ["mc"]

/-- Invisible characters without a part of their own in the division of words and sentences. -/
def plainFormatSet : CharSet :=
  pointsWithout (ofCategories ["cf"])
    (ofProperty "pcm" ++ joinControlPoints ++ graphemeExtendPoints)

/-! ## Graphemes -/

/-- Spacing marks that start a grapheme of their own. -/
def detachedMarkPoints : CodePoints :=
  .ofLines ["102B-102C 1038 1062-1064 1067-106D 1083 1087-108C 108F 109A-109C 1A61 1A63-1A64 AA7B",
    "AA7D 11720-11721"]

/-- Letters that are written in front of others in the same grapheme. -/
def precedingPoints : CodePoints :=
  .ofLines ["D4E 111C2-111C3 113D1 1193F 11941 11A3A 11A84-11A89 11D46 11F02"]

/-- Syllables of a leading consonant and a vowel, the first of each row of 28. -/
def openSyllablePoints : CodePoints :=
  (List.range 399).map fun row => (0xAC00 + 28 * row, 0xAC00 + 28 * row)

def closedSyllablePoints : CodePoints :=
  (List.range 399).map fun row => (0xAC01 + 28 * row, 0xAC1B + 28 * row)

/-- The parts that characters play in graphemes. -/
def graphemeParts : NamedSets :=
  let extending := graphemeExtendPoints ++ ofProperty "emod"
  let controls := .union (.points (ofCategories ["cc", "cf", "zl", "zp"]))
    (.inter unassigned (.points (ofProperty "di")))
  [(["cr"], .points [(0xD, 0xD)]), (["lf"], .points [(0xA, 0xA)]),
    (["cn", "control"], .diff controls
      (.points (lineEndPoints ++ joinControlPoints ++ ofProperty "pcm" ++ extending))),
    (["ex", "extend"], .points extending), (["zwj"], .points [(0x200D, 0x200D)]),
    (["ri", "regionalindicator"], .points [(0x1F1E6, 0x1F1FF)]),
    (["pp", "prepend"], .points (ofProperty "pcm" ++ precedingPoints)),
    (["sm", "spacingmark"],
      pointsWithout (ofCategories ["mc"] ++ [(0xE33, 0xE33), (0xEB3, 0xEB3)])
        (extending ++ detachedMarkPoints)),
    (["l"], .points [(0x1100, 0x115F), (0xA960, 0xA97C)]),
    (["v"], .points [(0x1160, 0x11A7), (0xD7B0, 0xD7C6), (0x16D63, 0x16D63), (0x16D67, 0x16D6A)]),
    (["t"], .points [(0x11A8, 0x11FF), (0xD7CB, 0xD7FB)]),
    (["lv"], .points openSyllablePoints), (["lvt"], .points closedSyllablePoints)]

/-! ## Words -/

/-- Characters of scripts that leave no blanks between words. -/
def unspacedPoints : CodePoints :=
  .ofLines ["E01-E3A E40-E4E E81-E82 E84 E86-E8A E8C-EA3 EA5 EA7-EBD EC0-EC4 EC6 EC8-ECE EDC-EDF",
    "1000-103F 1050-108F 109A-109F 1780-17D3 17D7 17DC-17DD 1950-196D 1970-1974 1980-19AB",
    "19B0-19C9 19DA 19DE-19DF 1A20-1A5E 1A60-1A7C 1AA0-1AAD A9E0-A9EF A9FA-A9FE AA60-AAC2",
    "AADB-AADF 11700-1171A 1171D-1172B 1173A-1173B 1173F-11746"]

/-- Signs that count as letters inside words. -/
def letterSignPoints : CodePoints :=
  .ofLines ["2C2-2C5 2D2-2D7 2DE-2DF 2E5-2EB 2ED 2EF-2FF 55A-55C 55E 58A 5F3 70F A708-A716",
    "A720-A721 A789-A78A AB5B"]

/-- Katakana and the signs that go with it. -/
def katakanaPoints : CodePoints :=
  ofScript "katakana" ++ .ofLines ["3031-3035 309B-309C 30A0 30FC FF70"]

def hebrewSet : CharSet :=
  .inter (.points (ofScript "hebrew")) (.points (ofCategories ["lo"]))

/-- Signs that may stand between the letters of a word. -/
def betweenLettersPoints : CodePoints :=
  .ofLines ["3A B7 387 55F 5F4 2027 FE13 FE55 FF1A"]

/-- Signs that may stand between the digits of a number. -/
def betweenDigitsPoints : CodePoints :=
  .ofLines ["2C 3B 37E 589 60C-60D 66C 7F8 2044 FE10 FE14 FE50 FE54 FF0C FF1B"]

/-- Signs that may stand between letters and between digits. -/
def betweenEitherPoints : CodePoints :=
  .ofLines ["2E 2018-2019 2024 FE52 FF07 FF0E"]

/-- Digits and signs that are read as part of a number. -/
def numericSet : CharSet :=
  pointsWithout (ofCategories ["nd"] ++ ofProperty "pcm" ++ [(0x66B, 0x66B)]) [(0x70F, 0x70F)]

/-- The parts that characters play in words. -/
def wordParts : NamedSets :=
  let extending := pointsWithout (attachedPoints ++ ofProperty "emod") [(0x200D, 0x200D)]
  let letters := .diff
    (pointsWithout (alphabeticPoints ++ letterSignPoints)
      (ofProperty "ideo" ++ katakanaPoints ++ unspacedPoints ++ ofScript "hiragana"))
    (.union extending hebrewSet)
  [(["cr"], .points [(0xD, 0xD)]), (["lf"], .points [(0xA, 0xA)]),
    (["nl", "newline"], .points [(0xB, 0xC), (0x85, 0x85), (0x2028, 0x2029)]),
    (["extend"], extending), (["zwj"], .points [(0x200D, 0x200D)]),
    (["ri", "regionalindicator"], .points [(0x1F1E6, 0x1F1FF)]),
    (["fo", "format"], .diff plainFormatSet (.points [(0x200B, 0x200B)])),
    (["ka", "katakana"], .points katakanaPoints), (["hl", "hebrewletter"], hebrewSet),
    (["le", "aletter"], letters), (["sq", "singlequote"], .single '\''),
    (["dq", "doublequote"], .single '"'), (["mb", "midnumlet"], .points betweenEitherPoints),
    (["ml", "midletter"], .points betweenLettersPoints),
    (["mn", "midnum"], .points betweenDigitsPoints), (["nu", "numeric"], numericSet),
    (["ex", "extendnumlet"], .points (ofCategories ["pc"] ++ [(0x202F, 0x202F)])),
    (["wsegspace"], pointsWithout (ofCategories ["zs"])
      [(0xA0, 0xA0), (0x2007, 0x2007), (0x202F, 0x202F)])]

/-! ## Sentences -/

/-- Full stops, which may also stand inside a sentence. -/
def fullStopPoints : CodePoints :=
  .ofLines ["2E 2024 FE52 FF0E"]

/-- Signs after which a sentence goes on. -/
def continuingPoints : CodePoints :=
  .ofLines ["2C-2D 3A-3B 37E 55D 60C-60D 7F8 1802 1808 2013-2014 3001 FE10-FE11 FE13-FE14",
    "FE31-FE32 FE50-FE51 FE54-FE55 FE58 FE63 FF0C-FF0D FF1A-FF1B FF64"]

/-- Quotation marks that neither open nor close by their category. -/
def quotePoints : CodePoints :=
  .ofLines ["22 27 275B-2760 2E00-2E01 2E06-2E08 2E0B 1F676-1F678"]

/-- Letters of a script whose two cases do not tell where a sentence starts. -/
def georgianPoints : CodePoints :=
  [(0x10D0, 0x10FA), (0x10FD, 0x10FF), (0x1C90, 0x1CBA), (0x1CBD, 0x1CBF)]

/-- The parts that characters play in sentences. -/
def sentenceParts : NamedSets :=
  let attached := attachedPoints ++ [(0x200D, 0x200D)]
  let small := pointsWithout lowercasePoints (graphemeExtendPoints ++ georgianPoints)
  let capital := pointsWithout (uppercasePoints ++ ofCategories ["lt"]) georgianPoints
  let ends := pointsWithout (ofProperty "sterm") fullStopPoints
  [(["cr"], .points [(0xD, 0xD)]), (["lf"], .points [(0xA, 0xA)]),
    (["se", "sep"], .points [(0x85, 0x85), (0x2028, 0x2029)]), (["ex", "extend"], .points attached),
    (["fo", "format"], plainFormatSet),
    (["sp"], pointsWithout blankPoints (lineEndPoints ++ [(0x85, 0x85), (0x2028, 0x2029)])),
    (["lo", "lower"], small), (["up", "upper"], capital),
    (["le", "oletter"],
      .diff (pointsWithout (alphabeticPoints ++ [(0x5F3, 0x5F3)]) attached)
        (.union small capital)),
    (["nu", "numeric"], .union numericSet (.points [(0x66C, 0x66C)])),
    (["at", "aterm"], .points fullStopPoints), (["sc", "scontinue"], .points continuingPoints),
    (["st", "sterm"], ends),
    (["cl", "close"],
      .diff (pointsWithout (ofCategories ["ps", "pe", "pi", "pf"] ++ quotePoints)
        ((0x5F3, 0x5F3) :: fullStopPoints)) ends)]

end FederatedAccess.Text
