import Parcel.Unicode.Casing
import Parcel.Unicode.Emoji
import Parcel.Unicode.Identifier
import Parcel.Unicode.Ideograph
import Parcel.Unicode.Trait

/-!
# Properties by name

The properties that a character has or has not, each with its names.

## Main definitions

* `Unicode.properties`
-/

namespace Parcel.Unicode

/-- Properties that are about case, each with its names. -/
def casingProperties : List (List String × CharSet) :=
  [(["uppercase", "upper"], uppercase), (["lowercase", "lower"], lowercase), (["cased"], cased),
    (["caseignorable", "ci"], caseIgnorable),
    (["changeswhenlowercased", "cwl"], changesWhenLowercased),
    (["changeswhenuppercased", "cwu"], changesWhenUppercased),
    (["changeswhentitlecased", "cwt"], changesWhenTitlecased),
    (["changeswhencasemapped", "cwcm"], changesWhenCasemapped),
    (["changeswhencasefolded", "cwcf"], changesWhenCasefolded), (["softdotted", "sd"], softDotted),
    (["otheruppercase", "oupper"], otherUppercase), (["otherlowercase", "olower"], otherLowercase)]

/-- Properties that are about identifiers, each with its names. -/
def identifierProperties : List (List String × CharSet) :=
  [(["patternsyntax", "patsyn"], patternSyntax),
    (["patternwhitespace", "patws"], patternWhiteSpace), (["idstart", "ids"], idStart),
    (["idcontinue", "idc"], idContinue), (["xidstart", "xids"], xidStart),
    (["xidcontinue", "xidc"], xidContinue), (["idcompatmathstart"], idCompatMathStart),
    (["idcompatmathcontinue"], idCompatMathContinue), (["otheridstart", "oids"], otherIdStart),
    (["otheridcontinue", "oidc"], otherIdContinue)]

/-- Properties that are about pictures and ideographs, each with its names. -/
def pictureProperties : List (List String × CharSet) :=
  [(["emoji"], emoji), (["emojipresentation", "epres"], emojiPresentation),
    (["emojimodifier", "emod"], emojiModifier), (["emojimodifierbase", "ebase"], emojiModifierBase),
    (["emojicomponent", "ecomp"], emojiComponent),
    (["extendedpictographic", "extpict"], extendedPictographic),
    (["regionalindicator", "ri"], regionalIndicator), (["ideographic", "ideo"], ideographic),
    (["unifiedideograph", "uideo"], unifiedIdeograph), (["radical"], radical),
    (["idsunaryoperator", "idsu"], idsUnaryOperator),
    (["idsbinaryoperator", "idsb"], idsBinaryOperator),
    (["idstrinaryoperator", "idst"], idsTrinaryOperator)]

/-- Other properties, each with its names. -/
def characterProperties : List (List String × CharSet) :=
  [(["alphabetic", "alpha"], alphabetic), (["math"], math),
    (["whitespace", "space", "wspace"], whiteSpace), (["asciihexdigit", "ahex"], asciiHexDigit),
    (["hexdigit", "hex"], hexDigit), (["dash"], dash), (["hyphen"], hyphen),
    (["quotationmark", "qmark"], quotationMark), (["sentenceterminal", "sterm"], sentenceTerminal),
    (["terminalpunctuation", "term"], terminalPunctuation), (["diacritic", "dia"], diacritic),
    (["extender", "ext"], extender), (["bidicontrol", "bidic"], bidiControl),
    (["bidimirrored", "bidim"], bidiMirrored), (["joincontrol", "joinc"], joinControl),
    (["deprecated", "dep"], deprecatedUse),
    (["logicalorderexception", "loe"], logicalOrderException),
    (["modifiercombiningmark", "mcm"], modifierCombiningMark),
    (["noncharactercodepoint", "nchar"], noncharacter),
    (["prependedconcatenationmark", "pcm"], prependedConcatenationMark),
    (["variationselector", "vs"], variationSelector),
    (["defaultignorablecodepoint", "di"], defaultIgnorable),
    (["graphemebase", "grbase"], graphemeBase), (["graphemeextend", "grext"], graphemeExtend),
    (["graphemelink", "grlink"], graphemeLink), (["otheralphabetic", "oalpha"], otherAlphabetic),
    (["othermath", "omath"], otherMath), (["othergraphemeextend", "ogrext"], otherGraphemeExtend),
    (["otherdefaultignorablecodepoint", "odi"], otherDefaultIgnorable)]

/-- The properties of characters, each with its names. -/
def properties : List (List String × CharSet) :=
  casingProperties ++ identifierProperties ++ pictureProperties ++ characterProperties

end Parcel.Unicode
