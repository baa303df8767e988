import Parcel.Unicode.Boundary.Grapheme
import Parcel.Unicode.Casing

/-!
# Boundaries of sentences

What characters are to the boundaries of sentences.
-/

namespace Parcel.Unicode

/-- Signs of category Cf that are parts of numbers. -/
def numberSign : CharSet := table "600-605 6DD 890-891 8E2 110BD 110CD"

/-- What belongs to the character before it. -/
def sentenceExtend : CharSet := graphemeExtend ∪ spacingMark ∪ table "200D"

/-- Characters without a shape. -/
def sentenceFormat : CharSet := formatControl \ (numberSign ∪ joinControl ∪ tagCharacter)

/-- Separators of lines other than the carriage return and the line feed. -/
def sentenceSeparator : CharSet := table "85" ∪ lineSeparator ∪ paragraphSeparator

/-- Other white space. -/
def sentenceSpace : CharSet := whiteSpace \ (lineEnding ∪ sentenceSeparator)

/-- Lowercase letters that begin a sentence as well. -/
def uncasedLowercase : CharSet := table "10D0-10FA 10FD-10FF"

/-- Uppercase letters that do not set a beginning apart. -/
def uncasedUppercase : CharSet := table "1C90-1CBA 1CBD-1CBF"

/-- Lower case. -/
def sentenceLower : CharSet := lowercase \ (graphemeExtend ∪ uncasedLowercase)

/-- Upper and title case. -/
def sentenceUpper : CharSet := (uppercase ∪ titlecaseLetter) \ uncasedUppercase

/-- Letters without case. -/
def sentenceLetter : CharSet :=
  (alphabetic \ (sentenceLower ∪ sentenceUpper ∪ sentenceExtend)) ∪ table "5F3"

/-- What numbers are made of. -/
def sentenceNumeric : CharSet := decimalNumeral ∪ numberSign ∪ table "66B-66C 19DA"

/-- Full stops, which need not end a sentence. -/
def sentenceDot : CharSet := table "2E 2024 FE52 FF0E"

/-- What ends a sentence. -/
def sentenceEnd : CharSet := sentenceTerminal \ sentenceDot

/-- What goes on with a sentence. -/
def sentenceContinue : CharSet :=
  table
    "2C-2D 3A-3B 37E 55D 60C-60D 7F8 1802 1808 2013-2014 3001 FE10-FE11 FE13-FE14 FE31-FE32
     FE50-FE51 FE54-FE55 FE58 FE63 FF0C-FF0D FF1A-FF1B FF64"

/-- Ornaments in the shape of quotation marks, and brackets of editors. -/
def ornamentalQuote : CharSet := table "275B-2760 2E00-2E01 2E06-2E08 2E0B 1F676-1F678"

/-- Wide quotation marks that neither open nor close. -/
def wideQuote : CharSet := table "FF02 FF07"

/-- Brackets and quotation marks. -/
def sentenceClose : CharSet :=
  (openPunctuation ∪ closePunctuation ∪ initialPunctuation ∪ finalPunctuation ∪ quotationMark ∪
      ornamentalQuote) \ wideQuote

/-- The values of the Sentence_Break property, each with its names. -/
def sentenceBreaks : List (List String × CharSet) :=
  [(["at", "aterm"], sentenceDot), (["cl", "close"], sentenceClose), (["cr"], table "D"),
    (["ex", "extend"], sentenceExtend), (["fo", "format"], sentenceFormat),
    (["le", "oletter"], sentenceLetter), (["lf"], table "A"), (["lo", "lower"], sentenceLower),
    (["nu", "numeric"], sentenceNumeric), (["sc", "scontinue"], sentenceContinue),
    (["se", "sep"], sentenceSeparator), (["sp"], sentenceSpace), (["st", "sterm"], sentenceEnd),
    (["up", "upper"], sentenceUpper)]

end Parcel.Unicode
