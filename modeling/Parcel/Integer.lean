/-!
# Integers of fixed width

Eight kinds of integers are told apart, though some share a range. An `Integer` is a kind with a
number in the range of that kind, so an integer that does not fit its kind cannot be written down.

## Main definitions

* `Parcel.Width` — signedness and number of bits, with the range they give
* `Parcel.IntegerKind` — the eight kinds of integers
* `Parcel.Integer` — an integer of one of these kinds
* `Integer.narrowest?` — the integer of the first kind in a list that holds a number
-/

namespace Parcel

/-- Signedness and number of bits of a machine integer. -/
structure Width where
  /-- Whether negative numbers are held. -/
  signed : Bool
  /-- Number of bits. -/
  bits : Nat
  deriving DecidableEq

namespace Width

/-- The least number held. -/
def least (w : Width) : Int := if w.signed then -(Nat.pow 2 (w.bits - 1) : Nat) else 0

/-- The greatest number held. -/
def greatest (w : Width) : Int :=
  if w.signed then (Nat.pow 2 (w.bits - 1) : Nat) - 1 else (Nat.pow 2 w.bits : Nat) - 1

/-- Whether the number `n` is held. -/
def Holds (w : Width) (n : Int) : Prop := w.least ≤ n ∧ n ≤ w.greatest

instance (w : Width) (n : Int) : Decidable (w.Holds n) :=
  inferInstanceAs (Decidable (_ ∧ _))

end Width

/-- The kinds of integers. The two wide kinds hold the same numbers as the long ones and stay
distinct from them. -/
inductive IntegerKind where
  /-- 16 bits, signed. -/
  | short
  /-- 16 bits, unsigned. -/
  | ushort
  /-- 32 bits, signed. -/
  | int
  /-- 32 bits, unsigned. -/
  | uint
  /-- 64 bits, signed. -/
  | long
  /-- 64 bits, unsigned. -/
  | ulong
  /-- 64 bits, signed, wide. -/
  | llong
  /-- 64 bits, unsigned, wide. -/
  | ullong
  deriving DecidableEq, Inhabited

namespace IntegerKind

/-- The width of an integer kind. -/
def width : IntegerKind → Width
  | short => ⟨true, 16⟩
  | ushort => ⟨false, 16⟩
  | int => ⟨true, 32⟩
  | uint => ⟨false, 32⟩
  | long | llong => ⟨true, 64⟩
  | ulong | ullong => ⟨false, 64⟩

end IntegerKind

/-- An integer of a given kind. -/
structure Integer where
  /-- The kind. -/
  kind : IntegerKind
  /-- The number. -/
  number : Int
  /-- The kind holds the number. -/
  holds : kind.width.Holds number
  deriving DecidableEq

namespace Integer

/-- The number `n` as an integer of the given `kind`, when the kind holds it. -/
def ofInt? (kind : IntegerKind) (n : Int) : Option Integer :=
  if h : kind.width.Holds n then some ⟨kind, n, h⟩ else none

/-- The integer of the first of `kinds` that holds the number `n`. -/
def narrowest? (kinds : List IntegerKind) (n : Int) : Option Integer :=
  kinds.findSome? fun kind => ofInt? kind n

end Integer

end Parcel
