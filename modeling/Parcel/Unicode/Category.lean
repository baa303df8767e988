import Parcel.Unicode.Letter
import Parcel.Unicode.Mark
import Parcel.Unicode.Numeral
import Parcel.Unicode.Punctuation
import Parcel.Unicode.Symbol

/-!
# General categories

Every character belongs to one general category. The categories of letters, marks, numerals,
punctuation, symbols and separators hold the characters that can be seen or take up room; all
others are controls, formats, surrogates, private or unassigned.

## Main definitions

* `Unicode.visible`, `Unicode.assigned`
* `Unicode.categories` — the categories and their groups by name
-/

namespace Parcel.Unicode

/-- Letters of every category. -/
def letter : CharSet :=
  uppercaseLetter ∪ lowercaseLetter ∪ titlecaseLetter ∪ modifierLetter ∪ otherLetter

/-- Marks of every category. -/
def mark : CharSet := nonspacingMark ∪ spacingMark ∪ enclosingMark

/-- Numerals of every category. -/
def numeral : CharSet := decimalNumeral ∪ letterNumeral ∪ otherNumeral

/-- Punctuation of every category. -/
def punctuation : CharSet :=
  connectorPunctuation ∪ dashPunctuation ∪ openPunctuation ∪ closePunctuation ∪
    initialPunctuation ∪ finalPunctuation ∪ otherPunctuation

/-- Symbols of every category. -/
def symbol : CharSet := mathSymbol ∪ currencySymbol ∪ modifierSymbol ∪ otherSymbol

/-- Separators of every category. -/
def separator : CharSet := spaceSeparator ∪ lineSeparator ∪ paragraphSeparator

/-- All characters that have a general category other than `Other`. -/
def visible : CharSet := letter ∪ mark ∪ numeral ∪ punctuation ∪ symbol ∪ separator

/-- All characters that are assigned. -/
def assigned : CharSet := visible ∪ control ∪ formatControl ∪ privateUse

/-- All characters that are not assigned. -/
def unassigned : CharSet := assigned.compl

/-- The general categories and their groups, each with its names. -/
def categories : List (List String × CharSet) :=
  [(["any"], CharSet.any), (["assigned"], assigned), (["ascii"], CharSet.ascii),
    (["l", "letter"], letter), (["lu", "uppercaseletter"], uppercaseLetter),
    (["ll", "lowercaseletter"], lowercaseLetter), (["lt", "titlecaseletter"], titlecaseLetter),
    (["lc", "casedletter"], uppercaseLetter ∪ lowercaseLetter ∪ titlecaseLetter),
    (["lm", "modifierletter"], modifierLetter), (["lo", "otherletter"], otherLetter),
    (["m", "mark", "combiningmark"], mark), (["mn", "nonspacingmark"], nonspacingMark),
    (["mc", "spacingmark"], spacingMark), (["me", "enclosingmark"], enclosingMark),
    (["n", "number"], numeral), (["nd", "decimalnumber", "digit"], decimalNumeral),
    (["nl", "letternumber"], letterNumeral), (["no", "othernumber"], otherNumeral),
    (["p", "punctuation", "punct"], punctuation),
    (["pc", "connectorpunctuation"], connectorPunctuation),
    (["pd", "dashpunctuation"], dashPunctuation), (["ps", "openpunctuation"], openPunctuation),
    (["pe", "closepunctuation"], closePunctuation),
    (["pi", "initialpunctuation"], initialPunctuation),
    (["pf", "finalpunctuation"], finalPunctuation),
    (["po", "otherpunctuation"], otherPunctuation), (["s", "symbol"], symbol),
    (["sm", "mathsymbol"], mathSymbol), (["sc", "currencysymbol"], currencySymbol),
    (["sk", "modifiersymbol"], modifierSymbol), (["so", "othersymbol"], otherSymbol),
    (["z", "separator"], separator), (["zs", "spaceseparator"], spaceSeparator),
    (["zl", "lineseparator"], lineSeparator), (["zp", "paragraphseparator"], paragraphSeparator),
    (["c", "other"], visible.compl), (["cc", "control", "cntrl"], control),
    (["cf", "format"], formatControl), (["co", "privateuse"], privateUse),
    (["cn", "unassigned"], unassigned)]

end Parcel.Unicode
