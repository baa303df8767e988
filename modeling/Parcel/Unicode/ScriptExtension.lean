import Parcel.Unicode.Script

/-!
# Characters of several scripts

Some characters are used in several scripts. The Script property gives most of them to none in
particular; the Script_Extensions property gives them to each script that uses them.

## Main definitions

* `Unicode.extendedScripts` — the scripts with all characters that they use
-/

namespace Parcel.Unicode

/-- What a script uses besides its own characters, for the scripts from A to K. -/
def sharedAToK : List (String × CharSet) :=
  [("adlam", table "61F 640 204F 2E41"),
    ("arabic", table "60C 61B 61F 640 64B-655 670 204F 2E41 FD3E-FD3F 102E0-102FB"),
    ("armenian", table "308"),
    ("avestan", table "B7 2E30-2E31"),
    ("bengali",
      table "2BC 951-952 964-965 1CD0 1CD2 1CD5-1CD6 1CD8 1CE1 1CEA 1CED 1CF2 1CF5-1CF7 A8F1"),
    ("bopomofo",
      table
        "2C7 2C9-2CB 2D9 3001-3003 3008-3011 3013-301F 302A-302D 3030 3037 30FB FE45-FE46
         FF61-FF65"),
    ("buginese", table "A9CF"),
    ("buhid", table "1735-1736"),
    ("carian", table "B7 205A 205D 2E31"),
    ("caucasianalbanian", table "304 331 35E"),
    ("chakma", table "9E6-9EF 1040-1049"),
    ("cherokee", table "300-302 304 30B-30C 323-324 330-331"),
    ("coptic", table "B7 300 304-305 307 374-375 2E17 102E0-102FB"),
    ("cypriot", table "10100-10102 10107-10133 10137-1013F"),
    ("cyprominoan", table "10100-10101"),
    ("cyrillic", table "2BC 300-302 304-308/2 30B 311 485-486 1DF8 2E43"),
    ("devanagari", table "2BC 951-952 964-965 1CD0-1CF6 1CF8-1CF9 20F0 A830-A839"),
    ("dogra", table "964-96F A830-A839"),
    ("duployan", table "B7 307-308 30A 323-324 2E3C 1BCA0-1BCA3"),
    ("elbasan", table "B7 305"),
    ("ethiopic", table "30E"),
    ("garay", table "60C 61B 61F"),
    ("georgian", table "B7 589 10FB 205A 2E31"),
    ("glagolitic", table "B7 303 305 484 487 589 10FB 205A 2E43 A66F"),
    ("gothic", table "B7 304-305 308 331"),
    ("grantha",
      table
        "951-952 964-965 BE6-BF3 1CD0 1CD2-1CD3 1CF2-1CF4 1CF8-1CF9 20F0 1133B 11FD0-11FD1
         11FD3"),
    ("greek", table "B7 300-301 304-308/2 313 342 345 374 1DC0-1DC1 205D"),
    ("gujarati", table "951-952 964-965 A830-A839"),
    ("gunjalagondi", table "B7 964-965"),
    ("gurmukhi", table "951-952 964-965 A830-A839"),
    ("gurungkhema", table "965"),
    ("han",
      table
        "B7 2FF0-2FFF 3001-3003 3006 3008-3011 3013-301F 302A-302D 3030 3037 303C-303F 30FB
         3190-319F 31C0-31E5 31EF 3220-3247 3280-32B0 32C0-32CB 32FF 3358-3370 337B-337F
         33E0-33FE A700-A707 FE45-FE46 FF61-FF65 1D360-1D371 1F250-1F251"),
    ("hangul", table "3001-3003 3008-3011 3013-301F 3030 3037 30FB FE45-FE46 FF61-FF65"),
    ("hanifirohingya", table "60C 61B 61F 640 6D4"),
    ("hanunoo", table "1735-1736"),
    ("hebrew", table "307-308"),
    ("hiragana",
      table
        "3001-3003 3008-3011 3013-301F 3030-3035 3037 303C-303D 3099-309C 30A0 30FB-30FC
         FE45-FE46 FF61-FF65 FF70 FF9E-FF9F"),
    ("javanese", table "A9CF"),
    ("kaithi", table "966-96F 2E31 A830-A839"),
    ("kannada", table "951-952 964-965 1CD0 1CD2-1CD3 1CDA 1CF2 1CF4 A830-A835"),
    ("katakana",
      table
        "305 323 3001-3003 3008-3011 3013-301F 3030-3035 3037 303C-303D 3099-309C 30A0
         30FB-30FC FE45-FE46 FF61-FF65 FF70 FF9E-FF9F"),
    ("kayahli", table "A92E"),
    ("khojki", table "AE6-AEF A830-A839"),
    ("khudawadi", table "964-965 A830-A839")]

/-- What a script uses besides its own characters, for the scripts from L to Z. -/
def sharedLToZ : List (String × CharSet) :=
  [("latin",
      table
        "B7 2BC 2C7 2C9-2CB 2CD 2D7 2D9 300-30E 310-311 313 320 323-325 32D-32E 330-331 358
         35E 363-36F 485-486 951-952 10FB 1DF8 202F 20F0 2E17 A700-A707 A92E"),
    ("limbu", table "965"),
    ("lineara", table "10107-10133"),
    ("linearb", table "10100-10102 10107-10133 10137-1013F"),
    ("lisu", table "2BC 2CD 300A-300B"),
    ("lycian", table "205A"),
    ("lydian", table "B7 2E31"),
    ("mahajani", table "B7 964-96F A830-A839"),
    ("malayalam", table "951-952 964-965 1CDA 1CF2 A830-A832"),
    ("mandaic", table "640"),
    ("manichaean", table "640"),
    ("masaramgondi", table "964-965"),
    ("meroitichieroglyphs", table "205D"),
    ("modi", table "A830-A839"),
    ("mongolian", table "1802-1803 1805 202F 3001-3002 3008-300B"),
    ("multani", table "A66-A6F"),
    ("myanmar", table "A92E"),
    ("nandinagari", table "964-965 CE6-CEF 1CE9 1CF2 1CFA A830-A835"),
    ("nko", table "60C 61B 61F FD3E-FD3F"),
    ("oldhungarian", table "205A 205D 2E31 2E41"),
    ("oldpermic", table "B7 300 306-308 313 483"),
    ("oldturkic", table "205A 2E30"),
    ("olduyghur", table "640 10AF2"),
    ("olonal", table "964-965"),
    ("oriya", table "951-952 964-965 1CDA 1CF2"),
    ("osage", table "301 304 30B 358"),
    ("phagspa", table "1802-1803 1805 202F 3002"),
    ("psalterpahlavi", table "640"),
    ("runic", table "16EB-16ED"),
    ("samaritan", table "2E31"),
    ("sharada", table "951 1CD7 1CD9 1CDC-1CDD 1CE0 A830-A835 A838"),
    ("shavian", table "B7"),
    ("sinhala", table "964-965 1CF2"),
    ("sogdian", table "640"),
    ("sunuwar", table "300-301 303 30D 310 32D 331"),
    ("sylotinagri", table "964-965 9E6-9EF"),
    ("syriac",
      table
        "303-304 307-308 30A 320 323-325 32D-32E 330 60C 61B-61C 61F 640 64B-655 670 1DF8 1DFA"),
    ("tagalog", table "1735-1736"),
    ("tagbanwa", table "1735-1736"),
    ("taile", table "300-301 307-308 30C 1040-1049"),
    ("takri", table "964-965 A830-A839"),
    ("tamil", table "951-952 964-965 1CDA A8F3 11301 11303 1133B-1133C"),
    ("tangut", table "2FF0-2FFF 31EF"),
    ("telugu", table "951-952 964-965 1CDA 1CF2"),
    ("thaana", table "60C 61B-61C 61F 660-669 FDF2 FDFD"),
    ("thai", table "2BC 2D7 303 331"),
    ("tibetan", table "3008-300B"),
    ("tifinagh", table "302 304 307 309"),
    ("tirhuta", table "951-952 964-965 1CF2 A830-A839"),
    ("todhri", table "301 304 307 311 313 35E"),
    ("toto", table "2BC"),
    ("tulutigalari", table "CE6-CEF 1CF2 1CF4 A830-A835 A8F1"),
    ("yezidi", table "60C 61B 61F 660-669"),
    ("yi", table "3001-3002 3008-3011 3014-301B 30FB FF61-FF65")]

/-- What a script uses besides its own characters. -/
def shared : List (String × CharSet) := sharedAToK ++ sharedLToZ

/-- All characters that some script uses besides its own. -/
def sharedByAny : CharSet := CharSet.unions (shared.map (·.2))

/-- The characters of a script with those that it shares with others; what any script uses is no
longer common or inherited. -/
def extend (names : List String) (own : CharSet) : CharSet :=
  if names.contains "common" || names.contains "inherited" then own \ sharedByAny
  else own ∪ CharSet.unions ((shared.filter fun (name, _) => names.contains name).map (·.2))

/-- The values of the Script_Extensions property, each with its names. -/
def extendedScripts : List (List String × CharSet) :=
  scripts.map fun (names, own) => (names, extend names own)

end Parcel.Unicode
