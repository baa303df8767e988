import Parcel.Number.Decimal
import Parcel.Pattern.Automaton
import Parcel.Pattern.Bracket
import Parcel.Unicode.Character

/-!
# Reading patterns

A pattern is read from left to right. Pieces collect in the innermost open group; a repetition
applies to the last piece, a bar ends an alternative, and a closing parenthesis makes one piece of
the group. There is no look-around and no reference to what a group has matched. Patterns that
nest too deeply or whose automata would take too much memory are refused.

## Main definitions

* `Pattern.read?` — the expression of a pattern
-/

namespace Parcel.Pattern

/-- A part of a pattern that stands by itself. -/
structure Piece where
  /-- What it says. -/
  expression : Expression
  /-- How many levels it is made of. -/
  depth : Nat
  /-- Whether it can be repeated. -/
  isRepeatable : Bool

/-- A piece of one character, one set or one assertion. -/
def Piece.simple (e : Expression) : Piece := ⟨e, 0, true⟩

/-- The greatest depth of some pieces. -/
def greatestDepth (pieces : List Piece) : Nat := (pieces.map (·.depth)).foldl max 0

/-- Pieces one after the other; the last one comes first in the list. -/
def joinPieces : List Piece → Piece
  | [] => ⟨.nothing, 0, false⟩
  | [p] => p
  | pieces =>
    ⟨.inSequence (pieces.reverse.map (·.expression)), greatestDepth pieces + 1, true⟩

/-- Alternatives; the last one comes first in the list. -/
def joinAlternatives (last : Piece) : List Piece → Piece
  | [] => last
  | earlier =>
    ⟨.anyOf ((last :: earlier).reverse.map (·.expression)), greatestDepth (last :: earlier) + 1,
      true⟩

/-- What surrounds an open group. -/
structure Level where
  /-- The number of the group, if it can be referred to. -/
  number : Option Nat
  /-- The settings to return to. -/
  flags : Flags
  /-- The pieces before the group. -/
  pieces : List Piece
  /-- The alternatives before those pieces. -/
  alternatives : List Piece

/-- How far a pattern has been read. -/
structure State where
  /-- The settings in force. -/
  flags : Flags
  /-- The pieces of the current alternative, the last one first. -/
  pieces : List Piece
  /-- The earlier alternatives of the innermost group, the last one first. -/
  alternatives : List Piece
  /-- What surrounds the open groups, the innermost one first. -/
  levels : List Level
  /-- The names of groups. -/
  names : List (List Char)
  /-- How many groups can be referred to. -/
  groups : Nat

namespace State

/-- The state with one more piece. -/
def add (p : Piece) (st : State) : State := { st with pieces := p :: st.pieces }

/-- The state after a bar. -/
def endAlternative (st : State) : State :=
  { st with pieces := [], alternatives := joinPieces st.pieces :: st.alternatives }

/-- The state after a parenthesis that opens a group with the settings `flags`. -/
def openGroup (number : Option Nat) (flags : Flags) (st : State) : State :=
  { st with
    flags, pieces := [], alternatives := []
    levels := ⟨number, st.flags, st.pieces, st.alternatives⟩ :: st.levels }

/-- The state after a parenthesis that opens a group with a number. -/
def openNumbered (st : State) : State :=
  let number := st.groups + 1
  { st.openGroup number st.flags with groups := number }

/-- The piece that the innermost group makes. -/
def group (st : State) : Piece := joinAlternatives (joinPieces st.pieces) st.alternatives

/-- The state after a parenthesis that closes a group. -/
def closeGroup? (st : State) : Option State :=
  match st.levels with
  | [] => none
  | level :: levels =>
    let inner := st.group
    let expression := level.number.elim inner.expression fun n => .group n inner.expression
    some { st with
      flags := level.flags
      pieces := ⟨expression, inner.depth + 1, true⟩ :: level.pieces
      alternatives := level.alternatives
      levels }

/-- The state after the last piece has been repeated from `least` to `most` times. -/
def repeat? (least : Nat) (most : Option Nat) (marked : Bool) (st : State) : Option State :=
  match st.pieces with
  | p :: pieces =>
    if p.isRepeatable then
      let expression := p.expression.repeated least most (marked != st.flags.lazy)
      some { st with pieces := ⟨expression, p.depth + 1, true⟩ :: pieces }
    else none
  | [] => none

end State

/-! ## Groups -/

/-- The settings with one of them changed. -/
def Flags.set? (flags : Flags) (c : Char) (on : Bool) : Option Flags :=
  match c with
  | 'i' => some { flags with ignoreCase := on }
  | 'm' => some { flags with multiLine := on }
  | 's' => some { flags with dotAll := on }
  | 'u' => some { flags with unicode := on }
  | 'R' => some { flags with returnLines := on }
  | 'x' => some { flags with spaced := on }
  | 'U' => some { flags with lazy := on }
  | _ => none

/-- Changes to the settings up to a colon or a closing parenthesis: the settings, the letters that
have been `seen`, and the rest from that sign on. No letter may come twice. -/
def changes? (flags : Flags) (on : Bool) (seen : List Char) :
    List Char → Option (Flags × List Char × List Char)
  | [] => none
  | c :: rest =>
    if c = ':' ∨ c = ')' then
      if seen.head? = some '-' then none else some (flags, seen, c :: rest)
    else if seen.contains c then none
    else if c = '-' then changes? flags false (c :: seen) rest
    else do changes? (← flags.set? c on) on (c :: seen) rest

/-- Whether a character may stand in the name of a group. -/
def isNameChar (first : Bool) (c : Char) : Bool :=
  if first then c == '_' || Unicode.isAlphabetic c
  else c == '_' || c == '.' || c == '[' || c == ']' || Unicode.isAlphanumeric c

/-- The name of a group, and what follows the angle that ends it. -/
def groupName? (s : List Char) : Option (List Char × List Char) := do
  let (name, rest) ← splitAt? ['>'] s
  match name with
  | [] => none
  | c :: cs => if isNameChar true c && cs.all (isNameChar false) then some (name, rest) else none

/-- The state after an opening parenthesis and what belongs to it. -/
def group? (st : State) (s : List Char) : Option (State × List Char) := do
  let named (s : List Char) : Option (State × List Char) := do
    let (name, rest) ← groupName? s
    if st.names.contains name then none
    else return ({ st.openNumbered with names := name :: st.names }, rest)
  match skip st.flags.spaced s with
  -- looking ahead and looking behind are not supported
  | '?' :: '=' :: _ | '?' :: '!' :: _ | '?' :: '<' :: '=' :: _ | '?' :: '<' :: '!' :: _ => none
  | '?' :: 'P' :: '<' :: rest => named rest
  | '?' :: '<' :: rest => named rest
  | '?' :: rest =>
    let (flags, seen, rest) ← changes? st.flags true [] rest
    match rest with
    -- flags by themselves go for the rest of the group around them
    | ')' :: rest =>
      if seen.isEmpty then none
      else return ({ st.add ⟨.nothing, 0, false⟩ with flags }, rest)
    | _ => return (st.openGroup none flags, rest.drop 1)
  | s => return (st.openNumbered, s)

/-! ## Repetitions -/

/-- The greatest count of a repetition. -/
def greatestCount : Nat := 0xFFFFFFFF

/-- A count, if there is one, among blanks. -/
def count? (spaced : Bool) (s : List Char) : Option (Option Nat × List Char) :=
  let (digits, rest) := run spaced Decimal.isDigit (s.dropWhile Unicode.isBlank)
  let rest := skip spaced (rest.dropWhile Unicode.isBlank)
  if digits.isEmpty then some (none, rest)
  else if Decimal.value digits ≤ greatestCount then some (some (Decimal.value digits), rest)
  else none

/-- The bounds of a repetition after an opening brace, and what follows the closing one. -/
def bounds? (spaced : Bool) (s : List Char) : Option (Nat × Option Nat × List Char) := do
  let (least, s) ← count? spaced (skip spaced s)
  let least ← least
  match s with
  | '\x7d' :: rest => return (least, some least, rest)
  | ',' :: rest =>
    match skip spaced rest with
    | '\x7d' :: rest => return (least, none, rest)
    | rest =>
      let (most, rest) ← count? spaced rest
      let most ← most
      let rest ← eat? '\x7d' rest
      if most < least then none else return (least, some most, rest)
  | _ => none

/-- Whether a repetition is marked by a question mark, and what follows. -/
def lazyMark : List Char → Bool × List Char
  | '?' :: rest => (true, rest)
  | s => (false, s)

/-! ## Patterns -/

/-- The assertion of the sign for the start of a line or of the text. -/
def Flags.lineStart (flags : Flags) : Assertion :=
  if !flags.multiLine then .textStart
  else if flags.returnLines then .returnLineStart else .lineStart

/-- The assertion of the sign for the end of a line or of the text. -/
def Flags.lineEnd (flags : Flags) : Assertion :=
  if !flags.multiLine then .textEnd
  else if flags.returnLines then .returnLineEnd else .lineEnd

/-- The state after one more part of a pattern, which starts with the character `c`. -/
def step? (st : State) (c : Char) (rest : List Char) : Option (State × List Char) :=
  let spaced := st.flags.spaced
  let repeated (least : Nat) (most : Option Nat) (rest : List Char) :=
    let (marked, rest) := lazyMark rest
    (st.repeat? least most marked).map (·, rest)
  match c with
  | '(' => group? st rest
  | ')' => st.closeGroup?.map (·, rest)
  | '|' => some (st.endAlternative, rest)
  | '?' => repeated 0 (some 1) rest
  | '*' => repeated 0 none rest
  | '+' => repeated 1 none rest
  | '\x7b' => do
    let (least, most, rest) ← bounds? spaced rest
    repeated least most (skip spaced rest)
  | '[' => do
    let (set, rest) ← bracket? st.flags rest
    return (st.add ⟨.ofSet set.set, set.depth, true⟩, rest)
  | '^' => some (st.add (.simple (.assertion st.flags.lineStart)), rest)
  | '$' => some (st.add (.simple (.assertion st.flags.lineEnd)), rest)
  | '\\' => do
    let (atom, rest) ← escape? st.flags rest
    return (st.add (.simple (← atom.expression? st.flags)), rest)
  | '.' => do return (st.add (.simple (← Atom.dot.expression? st.flags)), rest)
  | c => do return (st.add (.simple (← (Atom.literal c false).expression? st.flags)), rest)

/-- Reads the rest of a pattern. Every step takes a character at least, so the length is fuel
enough. -/
def steps? : Nat → State → List Char → Option State
  | 0, _, _ => none
  | fuel + 1, st, s =>
    match skip st.flags.spaced s with
    | [] => some st
    | c :: rest => do
      let (st, rest) ← step? st c rest
      steps? fuel st rest

/-- The deepest nesting of a pattern. -/
def depthLimit : Nat := 250

/-- The expression of a pattern; `none` when it is none. -/
def read? (s : List Char) : Option Expression := do
  let st ← steps? (s.length + 1) ⟨{}, [], [], [], [], 0⟩ s
  if !st.levels.isEmpty then none
  let whole := st.group
  if whole.depth ≤ depthLimit && whole.expression.fits then whole.expression else none

end Parcel.Pattern
