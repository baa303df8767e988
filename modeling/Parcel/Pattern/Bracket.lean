import Parcel.Pattern.Atom

/-!
# Bracketed sets

Sets between brackets: characters, ranges, escapes, named classes and further bracketed sets, one
after the other for their union, or combined by the operations on sets.

## Main definitions

* `Pattern.bracket?` — the set after an opening bracket
-/

namespace Parcel.Pattern

/-- A set and how deeply it was nested. -/
structure Nested where
  /-- The set. -/
  set : CharSet
  /-- How many levels it is made of. -/
  depth : Nat

/-- The operations on sets. -/
inductive SetOperation where
  /-- What is in both. -/
  | inter
  /-- What is in the first only. -/
  | diff
  /-- What is in exactly one. -/
  | symm
  deriving DecidableEq, Inhabited

/-- The result of an operation. -/
def SetOperation.apply : SetOperation → CharSet → CharSet → CharSet
  | inter => (· ∩ ·)
  | diff => (· \ ·)
  | symm => .symm

/-- A bracket that has not been closed. -/
structure Bracket where
  /-- Whether the complement is meant. -/
  negated : Bool
  /-- The left operand and the operation that waits for its right operand. -/
  pending : Option (SetOperation × Nested)
  /-- The members since then. -/
  members : List Nested

/-- The union of members. -/
def unite : List Nested → Nested
  | [] => ⟨.empty, 0⟩
  | [m] => m
  | m :: rest =>
    ⟨rest.foldl (fun s n => s ∪ n.set) m.set, (rest.map (·.depth)).foldl max m.depth + 1⟩

namespace Bracket

/-- The bracket with one more member. -/
def add (m : Nested) (b : Bracket) : Bracket := { b with members := m :: b.members }

/-- What the members stand for, joined to the left operand. -/
def operand (flags : Flags) (b : Bracket) : Nested :=
  let right := unite b.members
  match b.pending with
  | none => right
  | some (op, left) =>
    ⟨op.apply (flags.fold left.set) (flags.fold right.set), max left.depth right.depth + 1⟩

/-- The bracket at an operation. -/
def operate (flags : Flags) (op : SetOperation) (b : Bracket) : Bracket :=
  { b with pending := some (op, b.operand flags), members := [] }

/-- The set of a bracket that closes. -/
def close? (flags : Flags) (b : Bracket) : Option Nested := do
  let inner := b.operand flags
  return ⟨← flags.negate? b.negated (flags.fold inner.set), inner.depth + 1⟩

/-- The start of a bracket, after it has opened: the sign of the complement, dashes, and a closing
bracket where no member precedes it stand for themselves. -/
def open? (flags : Flags) (s : List Char) : Option (Bracket × List Char) := do
  let literal (c : Char) : Nested := ⟨.single c, 0⟩
  let (negated, s) := match skip flags.spaced s with
    | '^' :: rest => (true, skip flags.spaced rest)
    | s => (false, s)
  let (dashes, s) := run flags.spaced (· == '-') s
  let b : Bracket := ⟨negated, none, dashes.map literal⟩
  match s with
  | [] => none
  | ']' :: rest =>
    if !dashes.isEmpty then return (b, s)
    else match skip flags.spaced rest with
      | [] => none
      | rest => return (b.add (literal ']'), rest)
  | s => return (b, s)

end Bracket

/-- A named class of ASCII from its opening bracket on: whether it is negated, the set, and what
follows. -/
def asciiClass? (s : List Char) : Option (Bool × CharSet × List Char) := do
  match s with
  | '[' :: ':' :: rest =>
    let (negated, rest) := match rest with
      | '^' :: rest => (true, rest)
      | rest => (false, rest)
    let (name, rest) ← splitAt? [':', ']'] rest
    if name.contains ':' then none
    else return (negated, ← CharSet.ofAsciiName? name, rest)
  | _ => none

/-- One atom between brackets. -/
def member? (flags : Flags) : List Char → Option (Atom × List Char)
  | [] => none
  | '\\' :: rest => escape? flags rest
  | c :: rest => some (.literal c false, rest)

/-- A character between brackets, which has to be one of ASCII where Unicode is off. -/
def Atom.memberChar? (flags : Flags) : Atom → Option Char
  | literal c _ => if flags.unicode || c.toNat < 0x80 then some c else none
  | _ => none

/-- The set that an atom between brackets stands for. -/
def Atom.memberSet? (flags : Flags) : Atom → Option CharSet
  | set s => some s
  | a => (a.memberChar? flags).map .single

/-- The character that decides whether a dash makes a range. White space before it does not count,
nor does the sign of a comment; what the comment says does. -/
def ahead? (spaced : Bool) (s : List Char) : Option Char :=
  if !spaced then s.head?
  else match s.dropWhile Unicode.isBlank with
    | '#' :: rest => (rest.dropWhile Unicode.isBlank).head?
    | rest => rest.head?

/-- One atom, or the range from one to another, and what follows it in `s`. -/
def memberRange? (flags : Flags) (s : List Char) : Option (CharSet × List Char) := do
  let (first, s) ← member? flags s
  match skip flags.spaced s with
  | [] => none
  | '-' :: rest =>
    match ahead? flags.spaced rest with
    | some ']' | some '-' => return (← first.memberSet? flags, '-' :: rest)
    | _ =>
      let (last, rest) ← member? flags (skip flags.spaced rest)
      let low ← first.memberChar? flags
      let high ← last.memberChar? flags
      if high.toNat < low.toNat then none
      else return (.range low.toNat high.toNat, rest)
  | s => return (← first.memberSet? flags, s)

/-- Reads members until the outermost bracket closes; `outer` holds the brackets around the
innermost one. Every step takes a character at least, so the length is fuel enough. -/
def brackets? (flags : Flags) :
    Nat → Bracket → List Bracket → List Char → Option (Nested × List Char)
  | 0, _, _, _ => none
  | fuel + 1, b, outer, s =>
    match skip flags.spaced s with
    | [] => none
    | ']' :: rest => do
      let closed ← b.close? flags
      match outer with
      | [] => return (closed, rest)
      | b :: outer => brackets? flags fuel (b.add closed) outer rest
    | '[' :: rest =>
      -- a class by its name, or a bracket within the bracket
      match asciiClass? ('[' :: rest) with
      | some (negated, set, rest) => do
        let set ← flags.negate? negated (flags.fold set)
        brackets? flags fuel (b.add ⟨set, 0⟩) outer rest
      | none => do
        let (inner, rest) ← Bracket.open? flags rest
        brackets? flags fuel inner (b :: outer) rest
    | '&' :: '&' :: rest => brackets? flags fuel (b.operate flags .inter) outer rest
    | '-' :: '-' :: rest => brackets? flags fuel (b.operate flags .diff) outer rest
    | '~' :: '~' :: rest => brackets? flags fuel (b.operate flags .symm) outer rest
    | s => do
      let (set, rest) ← memberRange? flags s
      brackets? flags fuel (b.add ⟨set, 0⟩) outer rest

/-- The set after an opening bracket. -/
def bracket? (flags : Flags) (s : List Char) : Option (Nested × List Char) := do
  let (b, rest) ← Bracket.open? flags s
  brackets? flags (rest.length + 1) b [] rest

end Parcel.Pattern
