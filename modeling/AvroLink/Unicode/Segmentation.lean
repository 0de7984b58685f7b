import AvroLink.Unicode.Property
import AvroLink.Unicode.Script

/-!
# Classes of characters at boundaries

Where graphemes, words and sentences end depends on a class of the characters there. The three lists
hold these classes by name; a character in none of them has the class `Other`, which has no
set of its own.
-/

namespace AvroLink.Unicode

def hangulInitials : CodeSet := .ofText "1100-115F A960-A97C"

def hangulVowels : CodeSet := .ofText "1160-11A7 D7B0-D7C6"

def hangulFinals : CodeSet := .ofText "11A8-11FF D7CB-D7FB"

/-- Syllables without a final: every 28th one. -/
def hangulOpen : CodeSet :=
  .ofRanges ((List.range 399).map fun k => (0xAC00 + 28 * k, 0xAC00 + 28 * k))

def hangulSyllables : CodeSet := .range 0xAC00 0xD7A3

/-! ## Graphemes -/

def graphemeExtenders : CodeSet := graphemeExtend.union emojiModifier

def graphemePrepends : CodeSet :=
  prependedConcatenationMark.union
    (.ofText "D4E 111C2-111C3 113D1 1193F 11941 11A3A 11A84-11A89 11D46 11F02")

def graphemeControls : CodeSet :=
  CodeSet.diff
    (.unions [controls, formats, lineSeparators, paragraphSeparators,
      unassigned.inter defaultIgnorableCodePoint])
    (.unions [prependedConcatenationMark, graphemeExtenders, .ofText "A D 200C-200D"])

def graphemeSpacingMarks : CodeSet :=
  CodeSet.diff (spacingMarks.union (.ofText "E33 EB3"))
    (graphemeExtenders.union (.ofText "
      102B-102C 1038 1062-1064 1067-106D 1083 1087-108C 108F 109A-109C 1A61 1A63-1A64 AA7B AA7D
      11720-11721"))

def graphemeClasses : List NamedSet := [
  ⟨["cn", "control"], graphemeControls⟩,
  ⟨["cr"], .single 0xD⟩,
  ⟨["ex", "extend"], graphemeExtenders⟩,
  ⟨["l"], hangulInitials⟩,
  ⟨["lf"], .single 0xA⟩,
  ⟨["lv"], hangulOpen⟩,
  ⟨["lvt"], hangulSyllables.diff hangulOpen⟩,
  ⟨["pp", "prepend"], graphemePrepends⟩,
  ⟨["ri", "regionalindicator"], regionalIndicator⟩,
  ⟨["sm", "spacingmark"], graphemeSpacingMarks⟩,
  ⟨["t"], hangulFinals⟩,
  ⟨["v"], hangulVowels.union (.ofText "16D63 16D67-16D6A")⟩,
  ⟨["zwj"], .single 0x200D⟩]

/-! ## Words -/

def wordExtenders : CodeSet :=
  CodeSet.diff (.unions [graphemeExtend, spacingMarks, emojiModifier]) (.single 0x200D)

def katakanaLetters : CodeSet :=
  ((find? scripts "kana").getD .empty).union
    (.ofText "3031-3035 309B-309C 30A0 30FC FF70")

def hebrewLetters : CodeSet := otherLetters.inter ((find? scripts "hebr").getD .empty)

/-- Letters of languages that write words without gaps. -/
def unspacedLetters : CodeSet := .ofText "
  E01-E30 E32-E33 E40-E46 E81-E82 E84 E86-E8A E8C-EA3 EA5 EA7-EB0 EB2-EB3 EBD EC0-EC4 EC6 EDC-EDF
  1000-102A 103F 1050-1055 105A-105D 1061 1065-1066 106E-1070 1075-1081 108E 1780-17B3 17D7 17DC
  1950-196D 1970-1974 1980-19AB 19B0-19C9 1A20-1A54 1AA7 A9E0-A9E4 A9E6-A9EF A9FA-A9FE AA60-AA76
  AA7A AA7E-AAAF AAB1 AAB5-AAB6 AAB9-AABD AAC0 AAC2 AADB-AADD 11700-1171A 11740-11746"

/-- Signs that stand within words like letters. -/
def letterSigns : CodeSet := .ofText "
  2C2-2C5 2D2-2D7 2DE-2DF 2E5-2EB 2ED 2EF-2FF 55A-55C 55E 58A 5F3 70F A708-A716 A720-A721 A789-A78A
  AB5B"

def wordLetters : CodeSet :=
  CodeSet.union letterSigns
    (alphabetic.diff
      (.unions [ideographic, katakanaLetters, (find? scripts "hira").getD .empty, wordExtenders,
        hebrewLetters, unspacedLetters]))

/-- Marks that go before a number. -/
def numberMarks : CodeSet := prependedConcatenationMark.diff (.single 0x70F)

def wordClasses : List NamedSet := [
  ⟨["cr"], .single 0xD⟩,
  ⟨["dq", "doublequote"], .single 0x22⟩,
  ⟨["ex", "extendnumlet"], connectorPunctuation.union (.single 0x202F)⟩,
  ⟨["extend"], wordExtenders⟩,
  ⟨["fo", "format"],
    formats.diff (.unions [wordExtenders, prependedConcatenationMark, .ofText "200B 200D"])⟩,
  ⟨["hl", "hebrewletter"], hebrewLetters⟩,
  ⟨["ka", "katakana"], katakanaLetters⟩,
  ⟨["le", "aletter"], wordLetters⟩,
  ⟨["lf"], .single 0xA⟩,
  ⟨["mb", "midnumlet"], .ofText "2E 2018-2019 2024 FE52 FF07 FF0E"⟩,
  ⟨["ml", "midletter"], .ofText "3A B7 387 55F 5F4 2027 FE13 FE55 FF1A"⟩,
  ⟨["mn", "midnum"],
    .ofText "2C 3B 37E 589 60C-60D 66C 7F8 2044 FE10 FE14 FE50 FE54 FF0C FF1B"⟩,
  ⟨["nl", "newline"], .ofText "B-C 85 2028-2029"⟩,
  ⟨["nu", "numeric"], .unions [decimalNumbers, numberMarks, .single 0x66B]⟩,
  ⟨["ri", "regionalindicator"], regionalIndicator⟩,
  ⟨["sq", "singlequote"], .single 0x27⟩,
  ⟨["wsegspace"], .ofText "20 1680 2000-2006 2008-200A 205F 3000"⟩,
  ⟨["zwj"], .single 0x200D⟩]

/-! ## Sentences -/

def sentenceExtenders : CodeSet := .unions [graphemeExtend, spacingMarks, .single 0x200D]

def sentenceLower : CodeSet :=
  lowercase.diff (graphemeExtend.union (.ofText "10D0-10FA 10FD-10FF"))

def sentenceUpper : CodeSet :=
  CodeSet.diff (uppercase.union titlecaseLetters) (.ofText "1C90-1CBA 1CBD-1CBF")

def sentenceLetters : CodeSet :=
  CodeSet.diff (alphabetic.union (.single 0x5F3))
    (.unions [sentenceLower, sentenceUpper, sentenceExtenders])

def sentenceDots : CodeSet := .ofText "2E 2024 FE52 FF0E"

def sentenceSeparators : CodeSet := .ofText "85 2028-2029"

def sentenceClasses : List NamedSet := [
  ⟨["at", "aterm"], sentenceDots⟩,
  ⟨["cl", "close"],
    .unions [openPunctuation, closePunctuation, initialPunctuation, finalPunctuation,
      .ofText "22 27 275B-2760 2E00-2E01 2E06-2E08 2E0B 1F676-1F678"]⟩,
  ⟨["cr"], .single 0xD⟩,
  ⟨["ex", "extend"], sentenceExtenders⟩,
  ⟨["fo", "format"], formats.diff (.unions [sentenceExtenders, numberMarks])⟩,
  ⟨["le", "oletter"], sentenceLetters⟩,
  ⟨["lf"], .single 0xA⟩,
  ⟨["lo", "lower"], sentenceLower⟩,
  ⟨["nu", "numeric"], .unions [decimalNumbers, numberMarks, .ofText "66B-66C"]⟩,
  ⟨["sc", "scontinue"], .ofText "
    2C-2D 3A-3B 37E 55D 60C-60D 7F8 1802 1808 2013-2014 3001 FE10-FE11 FE13-FE14 FE31-FE32
    FE50-FE51 FE54-FE55 FE58 FE63 FF0C-FF0D FF1A-FF1B FF64"⟩,
  ⟨["se", "sep"], sentenceSeparators⟩,
  ⟨["sp"], whiteSpace.diff (sentenceSeparators.union (.ofText "A D"))⟩,
  ⟨["st", "sterm"], sentenceTerminal.diff sentenceDots⟩,
  ⟨["up", "upper"], sentenceUpper⟩]

end AvroLink.Unicode
