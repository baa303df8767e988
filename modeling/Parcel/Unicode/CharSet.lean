/-!
# Sets of characters

A set of characters is kept as spans of code points in ascending order that neither overlap nor
touch, so that equal sets are equal as data. The operations on sets keep to that form.

## Main definitions

* `Parcel.CharSet`, `CharSet.mem`
* `CharSet.union`, `CharSet.inter`, `CharSet.diff`, `CharSet.symm`, `CharSet.compl`
-/

namespace Parcel

/-- The code points `first`, …, `last`. -/
structure Span where
  /-- Least code point. -/
  first : Nat
  /-- Greatest code point. -/
  last : Nat
  deriving DecidableEq, Inhabited

namespace Span

/-- Whether the code point `n` is in the span. -/
def holds (s : Span) (n : Nat) : Bool := s.first ≤ n && n ≤ s.last

/-- The greatest code point. -/
def greatest : Nat := 0x10FFFF

/-- The code point after another one; surrogates are passed over. -/
def after (n : Nat) : Nat := if n = 0xD7FF then 0xE000 else n + 1

/-- The code point before another one; surrogates are passed over. -/
def before (n : Nat) : Nat := if n = 0xE000 then 0xD7FF else n - 1

/-- The span from one bound to the other, in whichever order they are given. -/
def ofBounds (m n : Nat) : Span := ⟨min m n, max m n⟩

/-- What two spans have in common. -/
def meet? (s t : Span) : Option Span :=
  let first := max s.first t.first
  let last := min s.last t.last
  if first ≤ last then some ⟨first, last⟩ else none

/-- What is left of the span `s` without `t`. -/
def without (s t : Span) : List Span :=
  if s.last < t.first ∨ t.last < s.first then [s]
  else
    (if s.first < t.first then [⟨s.first, before t.first⟩] else []) ++
      (if t.last < s.last then [⟨after t.last, s.last⟩] else [])

/-- Applies a function to every span of an ascending list and to what overlaps it of another one,
and puts the results together. -/
def alongside (f : Span → List Span → List Span) : List Span → List Span → List Span
  | [], _ => []
  | s :: rest, ts =>
    let ts := ts.dropWhile (·.last < s.first)
    f s (ts.takeWhile (·.first ≤ s.last)) ++ alongside f rest ts

/-- What a span has in common with others. -/
def meetAll (s : Span) (ts : List Span) : List Span := ts.filterMap s.meet?

/-- What is left of a span without others. -/
def withoutAll (s : Span) (ts : List Span) : List Span :=
  ts.foldl (fun spans t => spans.flatMap (·.without t)) [s]

/-- Puts a span before others in ascending order, joined to those that it overlaps or touches. -/
def join (s : Span) : List Span → List Span
  | [] => [s]
  | t :: rest =>
    if t.first ≤ s.last + 1 then join ⟨s.first, max s.last t.last⟩ rest else s :: join t rest

/-- Spans in ascending order, joined where they overlap or touch. -/
def joinAll : List Span → List Span
  | [] => []
  | s :: rest => join s rest

/-- The spans after the span `s` and between the others. Where two spans leave nothing but
surrogates between them, the characters on both sides of these are taken. -/
def gaps (s : Span) : List Span → List Span
  | [] => if s.last < greatest then [⟨after s.last, greatest⟩] else []
  | t :: rest => ofBounds (after s.last) (before t.first) :: gaps t rest

end Span

/-- A set of characters. -/
structure CharSet where
  /-- Its spans, in ascending order, neither overlapping nor touching. -/
  spans : List Span
  deriving DecidableEq, Inhabited

namespace CharSet

/-- Whether a code point is in the set. -/
def holds (s : CharSet) (n : Nat) : Bool := s.spans.any (·.holds n)

/-- Whether a character is in the set. -/
def mem (s : CharSet) (c : Char) : Bool := s.holds c.toNat

/-- The set of no characters. -/
def empty : CharSet := ⟨[]⟩

/-- The code points from one to another. -/
def range (first last : Nat) : CharSet := ⟨[⟨first, last⟩]⟩

/-- The set of one character. -/
def single (c : Char) : CharSet := range c.toNat c.toNat

/-- All characters. -/
def any : CharSet := range 0 Span.greatest

/-- The characters of ASCII. -/
def ascii : CharSet := range 0 0x7F

/-- The set of some spans. -/
def ofSpans (spans : List Span) : CharSet :=
  ⟨Span.joinAll (spans.mergeSort fun s t => s.first ≤ t.first)⟩

/-- The set of some code points. -/
def ofPoints (points : List Nat) : CharSet := ofSpans (points.map fun n => ⟨n, n⟩)

/-- What is in either set. -/
def union (a b : CharSet) : CharSet :=
  ⟨Span.joinAll (a.spans.merge b.spans fun s t => s.first ≤ t.first)⟩

/-- What is in both sets. -/
def inter (a b : CharSet) : CharSet := ⟨Span.alongside Span.meetAll a.spans b.spans⟩

/-- What is in the first set only. -/
def diff (a b : CharSet) : CharSet := ⟨Span.alongside Span.withoutAll a.spans b.spans⟩

instance : Union CharSet := ⟨union⟩

instance : Inter CharSet := ⟨inter⟩

instance : SDiff CharSet := ⟨diff⟩

/-- What is in exactly one of the sets. -/
def symm (a b : CharSet) : CharSet := (a ∪ b) \ (a ∩ b)

/-- What is not in the set. -/
def compl (s : CharSet) : CharSet :=
  match s.spans with
  | [] => any
  | t :: rest =>
    ⟨(if 0 < t.first then [⟨0, Span.before t.first⟩] else []) ++ t.gaps rest⟩

/-- The complement, if `negated`. -/
def negateIf (negated : Bool) (s : CharSet) : CharSet := if negated then s.compl else s

/-- What is in one of some sets. -/
def unions (sets : List CharSet) : CharSet := sets.foldl union empty

/-- Whether all characters of the set are those of ASCII. -/
def isAscii (s : CharSet) : Bool := s.spans.all (·.last < 0x80)

/-- The character of a set of one. -/
def only? (s : CharSet) : Option Char :=
  match s.spans with
  | [t] => if t.first = t.last then some (Char.ofNat t.first) else none
  | _ => none

/-- The set of a name in a list of sets with their names. -/
def lookup? (sets : List (List String × CharSet)) (name : String) : Option CharSet :=
  (sets.find? fun (names, _) => names.contains name).map (·.2)

end CharSet

end Parcel
