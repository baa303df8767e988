import Parcel.Unicode.CharSet

/-!
# Expressions

What a pattern says about a text. Expressions are put together by functions that simplify: texts
that follow one another are joined, sequences and choices do not nest, a choice between characters
is a set, and what all alternatives begin with stands before the choice.

## Main definitions

* `Parcel.Expression`, `Parcel.Assertion`
* `Expression.extent` — how long the texts of an expression are, and whether the expression holds
  on to an end of the text
* `Expression.ofSet`, `Expression.repeated`, `Expression.inSequence`, `Expression.anyOf`
-/

namespace Parcel

/-- What can be said of a position between two characters. -/
inductive Assertion where
  /-- The start of the text. -/
  | textStart
  /-- The end of the text. -/
  | textEnd
  /-- The start of a line. -/
  | lineStart
  /-- The end of a line. -/
  | lineEnd
  /-- The start of a line, where lines end in a carriage return, a line feed or both. -/
  | returnLineStart
  /-- The end of a line, where lines end in a carriage return, a line feed or both. -/
  | returnLineEnd
  /-- A word on exactly one side; words are those of the set `word`. -/
  | boundary (word : CharSet)
  /-- A word on both sides or on none. -/
  | notBoundary (word : CharSet)
  /-- A word only on the right. -/
  | wordStart (word : CharSet)
  /-- A word only on the left. -/
  | wordEnd (word : CharSet)
  /-- No word on the left. -/
  | wordStartHalf (word : CharSet)
  /-- No word on the right. -/
  | wordEndHalf (word : CharSet)
  deriving DecidableEq

/-- Whether an assertion holds between the characters `before` and `after`; at an end of the text
one is missing. -/
def Assertion.holds (a : Assertion) (before after : Option Char) : Bool :=
  match a with
  | textStart => before.isNone
  | textEnd => after.isNone
  | lineStart => before.isNone || before == some '\n'
  | lineEnd => after.isNone || after == some '\n'
  | returnLineStart =>
    before.isNone || before == some '\n' || (before == some '\r' && after != some '\n')
  | returnLineEnd =>
    after.isNone || after == some '\r' || (after == some '\n' && before != some '\r')
  | boundary word => before.any word.mem != after.any word.mem
  | notBoundary word => before.any word.mem == after.any word.mem
  | wordStart word => !before.any word.mem && after.any word.mem
  | wordEnd word => before.any word.mem && !after.any word.mem
  | wordStartHalf word => !before.any word.mem
  | wordEndHalf word => !after.any word.mem

/-- What a pattern says about a part of a text. -/
inductive Expression where
  /-- It is empty. -/
  | nothing
  /-- It is the given `text`. -/
  | literal (text : List Char)
  /-- It is one character of a set. -/
  | one (set : CharSet)
  /-- It is empty, and the assertion holds where it stands. -/
  | assertion (a : Assertion)
  /-- It is so many parts, each as `e` says; no greatest number, `most`, means any number. Few parts
  are preferred to many if the repetition is `lazy`. -/
  | repetition (e : Expression) (least : Nat) (most : Option Nat) (lazy : Bool)
  /-- It is as `e` says and can be referred to by `number`. -/
  | group (number : Nat) (e : Expression)
  /-- It is one part after another. -/
  | sequence (es : List Expression)
  /-- It is as one of the expressions says. -/
  | choice (es : List Expression)
  deriving BEq

/-! ## Extents -/

/-- What can be told of the texts of an expression without looking at them. -/
structure Extent where
  /-- The least number of characters, if there is any text. -/
  least : Option Nat
  /-- The greatest number of characters, if there is one. -/
  most : Option Nat
  /-- Whether every text stands at the start of the whole. -/
  opens : Bool
  /-- Whether every text stands at the end of the whole. -/
  closes : Bool

namespace Extent

/-- Whether only the empty text is meant. -/
def isEmptyOnly (o : Extent) : Bool := o.most == some 0

/-- Whether no text is empty. -/
def isNonempty (o : Extent) : Bool := o.least.any (0 < ·)

/-- Texts of so many characters that stand anywhere. -/
def ofLength (n : Nat) : Extent := ⟨some n, some n, false, false⟩

/-- What has no text. -/
def ofNone : Extent := ⟨none, none, false, false⟩

/-- The assertion of a position. -/
def ofAssertion (a : Assertion) : Extent :=
  ⟨some 0, some 0, a == .textStart, a == .textEnd⟩

/-- A repetition, from `least` to `most` times. -/
def times (least : Nat) (most : Option Nat) (o : Extent) : Extent :=
  ⟨o.least.map (· * least), most.bind fun n => o.most.map (· * n), 0 < least && o.opens,
    0 < least && o.closes⟩

/-- Whether a part in front, or one that only empty parts precede, has a property. -/
def leads (p : Extent → Bool) : List Extent → Bool
  | [] => false
  | o :: os => p o || (o.isEmptyOnly && leads p os)

/-- The sum of some numbers, if all of them are there. -/
def sum? : List (Option Nat) → Option Nat
  | [] => some 0
  | n :: ns => do return (← n) + (← sum? ns)

/-- One part after another. -/
def inSequence (os : List Extent) : Extent :=
  ⟨sum? (os.map (·.least)), sum? (os.map (·.most)), leads (·.opens) os,
    leads (·.closes) os.reverse⟩

/-- One of two alternatives. -/
def orElse (o p : Extent) : Extent :=
  ⟨do return min (← o.least) (← p.least), do return max (← o.most) (← p.most),
    o.opens && p.opens, o.closes && p.closes⟩

/-- One of some alternatives. -/
def ofChoice : List Extent → Extent
  | [] => ofNone
  | [o] => o
  | o :: os => o.orElse (ofChoice os)

end Extent

namespace Expression

mutual

/-- The extent of an expression. -/
def extent : Expression → Extent
  | nothing => .ofLength 0
  | literal text => .ofLength text.length
  | one set => if set.spans.isEmpty then .ofNone else .ofLength 1
  | assertion a => .ofAssertion a
  | repetition e least most _ => e.extent.times least most
  | group _ e => e.extent
  | sequence es => .inSequence (extents es)
  | choice es => .ofChoice (extents es)

/-- The extents of some expressions. -/
def extents : List Expression → List Extent
  | [] => []
  | e :: es => e.extent :: extents es

end

/-! ## Simplification -/

/-- One character of a set. -/
def ofSet (set : CharSet) : Expression :=
  match set.only? with
  | some c => literal [c]
  | none => one set

/-- A repetition, from `least` to `most` times. Empty parts need not be repeated. -/
def repeated (least : Nat) (most : Option Nat) (lazy : Bool) (e : Expression) : Expression :=
  let (least, most) :=
    if e.extent.isEmptyOnly then (min least 1, some (min (most.getD 1) 1)) else (least, most)
  if least = 0 ∧ most = some 0 then nothing
  else if least = 1 ∧ most = some 1 then e
  else repetition e least most lazy

/-- The parts that follow one another. -/
def parts : Expression → List Expression
  | nothing => []
  | sequence es => es
  | e => [e]

/-- Puts the part `e` before others, joined to the first one if both are texts. -/
def before (e : Expression) (es : List Expression) : List Expression :=
  match e, es with
  | literal s, literal t :: rest => literal (s ++ t) :: rest
  | e, es => e :: es

/-- One part after another. -/
def inSequence (es : List Expression) : Expression :=
  match (es.flatMap parts).foldr before [] with
  | [] => nothing
  | [e] => e
  | es => sequence es

/-- The alternatives of an expression. -/
def alternatives : Expression → List Expression
  | choice es => es
  | e => [e]

/-- The character that an expression stands for. -/
def char? : Expression → Option Char
  | literal [c] => some c
  | _ => none

/-- The set of which an expression takes one character. -/
def set? : Expression → Option CharSet
  | one set => some set
  | _ => none

/-- The parts of a sequence. -/
def sequence? : Expression → Option (List Expression)
  | sequence es => some es
  | _ => none

/-- What two lists begin with. -/
def commonStart : List Expression → List Expression → List Expression
  | d :: ds, e :: es => if d == e then d :: commonStart ds es else []
  | _, _ => []

/-- What some sequences all begin with. -/
def commonStarts : List (List Expression) → List Expression
  | [] => []
  | es :: rest => rest.foldl commonStart es

/-- One of some alternatives. What they all begin with is put in front as long as there is any, for
which the length of the longest sequence is fuel enough. -/
def factored : Nat → List Expression → Expression
  | 0, es => choice es
  | fuel + 1, es =>
    match es.flatMap alternatives with
    | [] => one .empty
    | [e] => e
    | es =>
      match es.mapM char?, es.mapM set?, es.mapM sequence? with
      | some cs, _, _ => ofSet (.ofPoints (cs.map (·.toNat)))
      | _, some sets, _ => ofSet (.unions sets)
      | _, _, some rows =>
        let start := commonStarts rows
        if start.isEmpty then choice es
        else
          inSequence (start ++
            [factored fuel (rows.map fun row => inSequence (row.drop start.length))])
      | _, _, _ => choice es

/-- One of some alternatives. -/
def anyOf (es : List Expression) : Expression :=
  factored ((es.map (·.parts.length)).foldl max 0 + 1) es

end Expression

end Parcel
