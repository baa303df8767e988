import Parcel.Unicode.Boundary.Sentence
import Parcel.Unicode.Ideograph
import Parcel.Unicode.Script

/-!
# Boundaries of words

What characters are to the boundaries of words.
-/

namespace Parcel.Unicode

/-- What belongs to the character before it. -/
def wordExtend : CharSet := graphemeExtension ∪ spacingMark

/-- Characters without a shape. -/
def wordFormat : CharSet :=
  formatControl \ (prependedConcatenationMark ∪ table "200B-200D" ∪ tagCharacter)

/-- What numbers are made of. -/
def wordNumeric : CharSet := sentenceNumeric \ table "66C"

/-- What joins letters and digits. -/
def wordConnector : CharSet := connectorPunctuation ∪ table "202F"

/-- Separators of lines other than the carriage return and the line feed. -/
def wordNewline : CharSet := table "B-C" ∪ sentenceSeparator

/-- Spaces at which a line may break. -/
def wordSpace : CharSet := spaceSeparator \ table "A0 2007 202F"

/-- Letters of Hebrew. -/
def hebrewLetter : CharSet := hebrewScript ∩ otherLetter

/-- Letters of Katakana and the signs that go with them. -/
def katakanaLetter : CharSet := katakanaScript ∪ table "3031-3035 309B-309C 30A0 30FC FF70"

/-- Signs that count as letters. -/
def wordSign : CharSet :=
  table
    "2C2-2C5 2D2-2D7 2DE-2DF 2E5-2EB 2ED 2EF-2FF 55A-55C 55E 58A 5F3 70F A708-A716 A720-A721
     A789-A78A AB5B"

/-- Letters of scripts that put no spaces between words. -/
def unspacedLetter : CharSet :=
  table
    "E01-E30 E32-E33 E40-E46 E81-E82 E84 E86-E8A E8C-EA3 EA5 EA7-EB0 EB2-EB3 EBD EC0-EC4 EC6
     EDC-EDF 1000-102A 103F 1050-1055 105A-105D 1061 1065-1066 106E-1070 1075-1081 108E 1780-17B3
     17D7 17DC 1950-196D 1970-1974 1980-19AB 19B0-19C9 1A20-1A54 1AA7 A9E0-A9E4 A9E6-A9EF
     A9FA-A9FE AA60-AA76 AA7A AA7E-AAAF AAB1 AAB5-AAB6 AAB9-AABD AAC0 AAC2 AADB-AADD 11700-1171A
     11740-11746"

/-- Other letters. -/
def wordLetter : CharSet :=
  (alphabetic \ (ideographic ∪ hiraganaScript ∪ katakanaLetter ∪ hebrewLetter ∪ wordExtend ∪
      unspacedLetter)) ∪ wordSign

/-- The values of the Word_Break property, each with its names. -/
def wordBreaks : List (List String × CharSet) :=
  [(["le", "aletter"], wordLetter), (["cr"], table "D"), (["dq", "doublequote"], table "22"),
    (["extend"], wordExtend), (["ex", "extendnumlet"], wordConnector),
    (["fo", "format"], wordFormat), (["hl", "hebrewletter"], hebrewLetter),
    (["ka", "katakana"], katakanaLetter), (["lf"], table "A"), (["ml", "midletter"], midLetter),
    (["mn", "midnum"], midNumber), (["mb", "midnumlet"], midWord), (["nl", "newline"], wordNewline),
    (["nu", "numeric"], wordNumeric), (["ri", "regionalindicator"], regionalIndicator),
    (["sq", "singlequote"], table "27"), (["wsegspace"], wordSpace), (["zwj"], table "200D")]

end Parcel.Unicode
