import Parcel.Unicode.Age
import Parcel.Unicode.Boundary.Word
import Parcel.Unicode.Property
import Parcel.Unicode.ScriptExtension

/-!
# Named sets

The sets that patterns refer to by name: digits, blanks and word characters, the classes of ASCII,
and the properties of Unicode with their values.

## Main definitions

* `CharSet.digit`, `CharSet.space`, `CharSet.word`
* `CharSet.ofAsciiName?`
* `CharSet.ofPropertyName?`, `CharSet.ofPropertyValue?`
-/

namespace Parcel.CharSet

open Unicode

/-! ## Unicode -/

/-- The White_Space property. -/
def space : CharSet := whiteSpace

/-- Decimal digits of every script. -/
def digit : CharSet := decimalNumeral

/-- What words are made of. -/
def word : CharSet := alphabetic ∪ mark ∪ decimalNumeral ∪ connectorPunctuation ∪ joinControl

/-- Whether a name begins with `is`, and what follows that. -/
def splitMark (name : List Char) : Bool × List Char :=
  match name with
  | c :: d :: rest => if c.toLower = 'i' ∧ d.toLower = 's' then (true, rest) else (false, name)
  | _ => (false, name)

/-- A name in lower case without a leading `is`, blanks, dashes, underscores and what is not
ASCII. The one name that consists of `is` and the letter c keeps all three letters, since the letter
alone is the name of something else. -/
def looseName (name : List Char) : String :=
  let (marked, rest) := splitMark name
  let isKept (c : Char) : Bool := c.toNat < 0x80 && c != ' ' && c != '_' && c != '-'
  let kept := (rest.filter isKept).map Char.toLower
  if marked ∧ kept = ['c'] then "isc" else String.ofList kept

/-- The set of a property, category or script. -/
def ofPropertyName? (name : List Char) : Option CharSet :=
  let name := looseName name
  lookup? properties name <|> lookup? categories name <|> lookup? scripts name

/-- The values of a property that has more than two, each with its names. -/
def valuesOf? (property : String) : Option (List (List String × CharSet)) :=
  match property with
  | "gc" | "generalcategory" => some categories
  | "sc" | "script" => some scripts
  | "scx" | "scriptextensions" => some extendedScripts
  | "age" => some ages
  | "gcb" | "graphemeclusterbreak" => some graphemeBreaks
  | "wb" | "wordbreak" => some wordBreaks
  | "sb" | "sentencebreak" => some sentenceBreaks
  | _ => none

/-- The set of the characters that have a value of a property. -/
def ofPropertyValue? (property value : List Char) : Option CharSet := do
  lookup? (← valuesOf? (looseName property)) (looseName value)

/-! ## ASCII -/

/-- The digits of ASCII. -/
def asciiDigit : CharSet := table "30-39"

/-- The white space of ASCII. -/
def asciiSpace : CharSet := table "9-D 20"

/-- The word characters of ASCII. -/
def asciiWord : CharSet := table "30-39 41-5A 5F 61-7A"

/-- The classes of ASCII by name. -/
def asciiClasses : List (List String × CharSet) :=
  [(["alnum"], table "30-39 41-5A 61-7A"), (["alpha"], table "41-5A 61-7A"), (["ascii"], ascii),
    (["blank"], table "9 20"), (["cntrl"], table "0-1F 7F"), (["digit"], asciiDigit),
    (["graph"], table "21-7E"), (["lower"], table "61-7A"), (["print"], table "20-7E"),
    (["punct"], table "21-2F 3A-40 5B-60 7B-7E"), (["space"], asciiSpace),
    (["upper"], table "41-5A"), (["word"], asciiWord), (["xdigit"], table "30-39 41-46 61-66")]

/-- The class of ASCII of a name. -/
def ofAsciiName? (name : List Char) : Option CharSet :=
  lookup? asciiClasses (String.ofList name)

end Parcel.CharSet
