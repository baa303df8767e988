import Parcel.Unicode.Emoji
import Parcel.Unicode.Trait

/-!
# Boundaries of graphemes

What characters are to the boundaries of graphemes.
-/

namespace Parcel.Unicode

/-- A carriage return and a line feed. -/
def lineEnding : CharSet := table "A D"

/-- Characters that spell the name of a flag. -/
def tagCharacter : CharSet := table "E0020-E007F"

/-- Boundaries of graphemes on both sides. -/
def graphemeControl : CharSet :=
  (lineSeparator ∪ paragraphSeparator ∪ control ∪ formatControl ∪
      (unassigned ∩ defaultIgnorable)) \
    (lineEnding ∪ joinControl ∪ tagCharacter ∪ prependedConcatenationMark)

/-- What belongs to the character before it. -/
def graphemeExtension : CharSet := graphemeExtend ∪ emojiModifier

/-- What belongs to the character after it. -/
def graphemePrepend : CharSet :=
  table
    "600-605 6DD 70F 890-891 8E2 D4E 110BD 110CD 111C2-111C3 113D1 1193F 11941 11A3A 11A84-11A89
     11D46 11F02"

/-- Marks of category Mc that do not belong to the character before them. -/
def apartSpacingMark : CharSet :=
  table
    "102B-102C 1038 1062-1064 1067-106D 1083 1087-108C 108F 109A-109C 1A61 1A63-1A64 AA7B AA7D
     11720-11721"

/-- Letters that belong to the character before them as marks of category Mc do. -/
def spacingVowel : CharSet := table "E33 EB3"

/-- Marks and letters that belong to the character before them and take up room. -/
def graphemeSpacingMark : CharSet :=
  (spacingMark ∪ spacingVowel) \ (graphemeExtension ∪ apartSpacingMark)

/-- Consonants that begin a syllable of Hangul. -/
def leadingJamo : CharSet := table "1100-115F A960-A97C"

/-- Vowels of Hangul, and those that combine like them. -/
def vowelJamo : CharSet := table "1160-11A7 D7B0-D7C6 16D63 16D67-16D6A"

/-- Consonants that end a syllable of Hangul. -/
def trailingJamo : CharSet := table "11A8-11FF D7CB-D7FB"

/-- Syllables of Hangul that end in a vowel. -/
def openSyllable : CharSet := table "AC00-D788/1C"

/-- Syllables of Hangul that end in a consonant. -/
def closedSyllable : CharSet := table "AC00-D7A3" \ openSyllable

/-- The values of the Grapheme_Cluster_Break property, each with its names. -/
def graphemeBreaks : List (List String × CharSet) :=
  [(["cn", "control"], graphemeControl), (["cr"], table "D"), (["ex", "extend"], graphemeExtension),
    (["l"], leadingJamo), (["lf"], table "A"), (["lv"], openSyllable), (["lvt"], closedSyllable),
    (["pp", "prepend"], graphemePrepend), (["ri", "regionalindicator"], regionalIndicator),
    (["sm", "spacingmark"], graphemeSpacingMark), (["t"], trailingJamo), (["v"], vowelJamo),
    (["zwj"], table "200D")]

end Parcel.Unicode
