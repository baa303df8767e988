import Parcel.Hex
import Parcel.Pattern.Expression
import Parcel.Pattern.Property
import Parcel.Unicode.Blank
import Parcel.Unicode.Folding

/-!
# Atoms of patterns

Single characters, escapes and named sets, as they stand both by themselves and between brackets.
In spaced patterns white space and comments are skipped almost everywhere.

## Main definitions

* `Pattern.Flags` — the settings that a pattern can change as it goes
* `Pattern.skip` — what follows white space and comments
* `Pattern.escape?` — what a backslash stands for
-/

namespace Parcel.Pattern

/-- The settings of a part of a pattern. -/
structure Flags where
  /-- Whether upper and lower case are the same. -/
  ignoreCase : Bool := false
  /-- Whether the line assertions look for lines rather than for the whole text. -/
  multiLine : Bool := false
  /-- Whether the dot stands for line ends too. -/
  dotAll : Bool := false
  /-- Whether sets are those of Unicode rather than of ASCII. -/
  unicode : Bool := true
  /-- Whether carriage returns end lines too. -/
  returnLines : Bool := false
  /-- Whether white space and comments are skipped. -/
  spaced : Bool := false
  /-- Whether repetitions are lazy unless marked. -/
  lazy : Bool := false
  deriving DecidableEq, Inhabited

/-! ## Skipping -/

/-- What follows white space and comments, from inside a comment or not. -/
def skipBlanks : Bool → List Char → List Char
  | _, [] => []
  | true, c :: rest => skipBlanks (c != '\n') rest
  | false, c :: rest =>
    if Unicode.isBlank c then skipBlanks false rest
    else if c = '#' then skipBlanks true rest
    else c :: rest

/-- What follows white space and comments, where these are skipped: where the pattern is `spaced`.
-/
def skip (spaced : Bool) (s : List Char) : List Char := if spaced then skipBlanks false s else s

theorem length_skipBlanks_le (comment : Bool) (s : List Char) :
    (skipBlanks comment s).length ≤ s.length := by
  fun_induction skipBlanks comment s <;> grind

theorem length_skip_le (spaced : Bool) (s : List Char) : (skip spaced s).length ≤ s.length := by
  unfold skip
  split
  · exact length_skipBlanks_le false s
  · exact Nat.le_refl _

/-- The leading characters that satisfy `p`, with skipping after each, and what follows. -/
def run (spaced : Bool) (p : Char → Bool) (s : List Char) : List Char × List Char :=
  match s with
  | [] => ([], [])
  | c :: rest =>
    if p c then
      let (taken, rest) := run spaced p (skip spaced rest)
      (c :: taken, rest)
    else ([], c :: rest)
termination_by s.length
decreasing_by exact Nat.lt_succ_of_le (length_skip_le spaced rest)

/-- What follows the given character. -/
def eat? (c : Char) : List Char → Option (List Char)
  | [] => none
  | d :: rest => if d = c then some rest else none

/-! ## Code points -/

/-- Whether a character is a hexadecimal digit. -/
def isHexDigit (c : Char) : Bool := (Hex.charValue? c).isSome

/-- The number of some hexadecimal digits. -/
def hexNumber (digits : List Char) : Nat :=
  digits.foldl (fun n c => 16 * n + (Hex.charValue? c).getD 0) 0

/-- The character of a code point. -/
def charOf? (n : Nat) : Option Char := if n.isValidChar then some (Char.ofNat n) else none

/-- So many hexadecimal digits, with skipping after each. -/
def hexDigits? (spaced : Bool) : Nat → List Char → Option (List Char × List Char)
  | 0, s => some ([], s)
  | _ + 1, [] => none
  | n + 1, c :: rest =>
    if isHexDigit c then
      (hexDigits? spaced n (skip spaced rest)).map fun (taken, rest) => (c :: taken, rest)
    else none

/-- The code point after the letter that introduces it: as many digits as `digits` says, or any
number of them between braces. Tells whether it was the former. -/
def codePoint? (spaced : Bool) (digits : Nat) (s : List Char) :
    Option (Char × Bool × List Char) := do
  match skip spaced s with
  | '\x7b' :: rest =>
    let (taken, rest) := run spaced isHexDigit (skip spaced rest)
    let rest ← eat? '\x7d' rest
    if taken.isEmpty then none
    else return (← charOf? (hexNumber taken), false, skip spaced rest)
  | s =>
    let (taken, rest) ← hexDigits? spaced digits s
    return (← charOf? (hexNumber taken), true, rest)

/-! ## Sets -/

/-- The closure under case, where case is ignored. -/
def Flags.fold (flags : Flags) (s : CharSet) : CharSet :=
  if !flags.ignoreCase then s
  else if flags.unicode then s.folded
  else s.folded ∩ .ascii

/-- The complement, if `negated`. Without Unicode it would hold bytes that are no characters, and is
refused. -/
def Flags.negate? (flags : Flags) (negated : Bool) (s : CharSet) : Option CharSet :=
  if negated && !flags.unicode then none else some (s.negateIf negated)

/-- The set of the digits, blanks or word characters. -/
def Flags.letterSet (flags : Flags) (c : Char) : CharSet :=
  match c.toLower, flags.unicode with
  | 'd', true => .digit
  | 's', true => .space
  | _, true => .word
  | 'd', false => .asciiDigit
  | 's', false => .asciiSpace
  | _, false => .asciiWord

/-- The word characters. -/
def Flags.word (flags : Flags) : CharSet := flags.letterSet 'w'

/-- What stands before the first occurrence of a separator, and what follows it. -/
def splitAt? (separator : List Char) : List Char → Option (List Char × List Char)
  | [] => none
  | c :: rest =>
    if separator.isPrefixOf (c :: rest) then some ([], (c :: rest).drop separator.length)
    else (splitAt? separator rest).map fun (before, after) => (c :: before, after)

/-- The set that a property is named by between braces. A value follows its property after a colon
or a sign of equality; a sign of inequality means the same, since only the letter that introduces
the property asks for the complement. -/
def propertySet? (name : List Char) : Option CharSet :=
  match splitAt? ['!', '='] name <|> splitAt? [':'] name <|> splitAt? ['='] name with
  | some (property, value) => CharSet.ofPropertyValue? property value
  | none => CharSet.ofPropertyName? name

/-- The name of a property after the letter that introduces it: one character, or any number of
them between braces. -/
def propertyName? (spaced : Bool) (s : List Char) : Option (List Char × List Char) :=
  match skip spaced s with
  | [] => none
  | '\x7b' :: rest =>
    let (name, rest) := run spaced (· != '\x7d') (skip spaced rest)
    (eat? '\x7d' rest).map (name, ·)
  | c :: rest => if c = '\\' then none else some ([c], skip spaced rest)

/-- The set after the letter that introduces a property. -/
def property? (flags : Flags) (negated : Bool) (s : List Char) :
    Option (CharSet × List Char) := do
  if !flags.unicode then none
  let (name, rest) ← propertyName? flags.spaced s
  return ((flags.fold (← propertySet? name)).negateIf negated, rest)

/-! ## Escapes -/

/-- An atom of a pattern. -/
inductive Atom where
  /-- A character; one that was given `asByte` is a character only below 128. -/
  | literal (c : Char) (asByte : Bool)
  /-- A set. -/
  | set (s : CharSet)
  /-- Every character, line ends aside. -/
  | dot
  /-- An assertion. -/
  | assertion (a : Assertion)

/-- Characters that mean something by themselves in some place. -/
def isMeta (c : Char) : Bool := "\\.+*?()|[]\x7b\x7d^$#&-~".toList.contains c

/-- Whether a backslash before the character makes it stand for itself. -/
def isEscapable (c : Char) : Bool :=
  isMeta c || (c.toNat < 0x80 && !c.isAlphanum && c != '<' && c != '>')

/-- The word boundary that is named between braces, if it is one. A brace that begins otherwise is
left to be read as a repetition. -/
def namedBoundary? (flags : Flags) (s : List Char) : Option (Atom × List Char) :=
  let plain := some (.assertion (.boundary flags.word), s)
  let isLetter (c : Char) : Bool := c.isAlpha || c == '-'
  match s with
  | '\x7b' :: rest =>
    match skip flags.spaced rest with
    | [] => none
    | c :: rest =>
      if !isLetter c then plain
      else do
        let (name, rest) := run flags.spaced isLetter (c :: rest)
        let rest ← eat? '\x7d' rest
        match String.ofList name with
        | "start" => return (.assertion (.wordStart flags.word), rest)
        | "end" => return (.assertion (.wordEnd flags.word), rest)
        | "start-half" => return (.assertion (.wordStartHalf flags.word), rest)
        | "end-half" => return (.assertion (.wordEndHalf flags.word), rest)
        | _ => none
  | _ => plain

/-- What a backslash stands for, from the character after it on. -/
def escape? (flags : Flags) : List Char → Option (Atom × List Char)
  | [] => none
  | c :: rest =>
    let fixed (a : Atom) : Option (Atom × List Char) := some (a, rest)
    let code (digits : Nat) : Option (Atom × List Char) :=
      (codePoint? flags.spaced digits rest).map fun (d, exact, rest) =>
        (.literal d (exact && digits == 2), rest)
    match c with
    | 'x' => code 2
    | 'u' => code 4
    | 'U' => code 8
    | 'p' | 'P' => (property? flags (c == 'P') rest).map fun (s, rest) => (.set s, rest)
    | 'd' | 's' | 'w' | 'D' | 'S' | 'W' =>
      (flags.negate? c.isUpper (flags.letterSet c)).map fun s => (.set s, rest)
    | 'a' => fixed (.literal '\x07' false)
    | 'f' => fixed (.literal '\x0c' false)
    | 't' => fixed (.literal '\t' false)
    | 'n' => fixed (.literal '\n' false)
    | 'r' => fixed (.literal '\r' false)
    | 'v' => fixed (.literal '\x0b' false)
    | 'A' => fixed (.assertion .textStart)
    | 'z' => fixed (.assertion .textEnd)
    | 'b' => namedBoundary? flags rest
    | 'B' => fixed (.assertion (.notBoundary flags.word))
    | '<' => fixed (.assertion (.wordStart flags.word))
    | '>' => fixed (.assertion (.wordEnd flags.word))
    | c => if isEscapable c then fixed (.literal c false) else none

/-- The expression of the character `c`, which is a set where case is ignored and there is another
case. Without Unicode there is another case only for the letters of ASCII, and what was given
`asByte` has to be one of ASCII. -/
def Flags.literal? (flags : Flags) (c : Char) (asByte : Bool) : Option Expression :=
  if flags.unicode || c.toNat < 0x80 then some (.ofSet (flags.fold (.single c)))
  else if asByte then none
  else some (.literal [c])

/-- The set that the dot stands for. -/
def Flags.dot? (flags : Flags) : Option CharSet :=
  if !flags.unicode then none
  else if flags.dotAll then some .any
  else if flags.returnLines then some (CharSet.ofPoints [0x0A, 0x0D]).compl
  else some (CharSet.single '\n').compl

/-- The expression of an atom. -/
def Atom.expression? (flags : Flags) : Atom → Option Expression
  | literal c asByte => flags.literal? c asByte
  | set s => some (.ofSet s)
  | dot => flags.dot?.map .ofSet
  | assertion a => some (.assertion a)

end Parcel.Pattern
