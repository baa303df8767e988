import Parcel.Json.Syntax
import Parcel.Number.Layout
import Parcel.Value

/-!
# JSON numbers

A number without point and exponent is an integer when 64 bits hold it; every other number is a
double. The double is computed from the leading digits that 64 bits hold, multiplied or divided by
a power of ten that is itself rounded, so its last bit may differ from that of the nearest double.

## Main definitions

* `Json.Numeral.value?` — the value that a number denotes
* `Json.layout`, `Json.double` — how a double is written
-/

namespace Parcel.Json

/-- Doubles are written positionally from `1e-5` up to `1e16`, whole ones with a zero after the
point, and with a signed exponent elsewhere; a tie goes to the even digit. -/
def layout : Number.Layout := ⟨.toEven, some (-5, 16), ['.', '0']⟩

/-- The text of a double; what is not finite has none. -/
def double? (bits : Nat) : Option (List Char) :=
  match Binary.double.read bits with
  | .finite negative mantissa exponent =>
    some (layout.write Binary.double negative mantissa exponent)
  | _ => none

/-- The number that a digit stands for. -/
def digitOf (b : UInt8) : Nat := b.toNat - 0x30

/-- The greatest significand. -/
def significandBound : Nat := 0xFFFFFFFFFFFFFFFF

/-- Takes further digits before the point: the `significand` grows as long as it fits, after that
the exponent counts the digits as `extra`. -/
def takeWhole (significand : Nat) (extra : Nat) : Bytes → Nat × Nat
  | [] => (significand, extra)
  | b :: rest =>
    if extra = 0 ∧ significand * 10 + digitOf b ≤ significandBound then
      takeWhole (significand * 10 + digitOf b) 0 rest
    else takeWhole significand (extra + 1) rest

/-- Takes digits after the point as long as the `significand` fits, and counts them. -/
def takeFraction (significand taken : Nat) : Bytes → Nat × Nat
  | [] => (significand, taken)
  | b :: rest =>
    if significand * 10 + digitOf b ≤ significandBound then
      takeFraction (significand * 10 + digitOf b) (taken + 1) rest
    else (significand, taken)

/-- The double nearest to a power of ten. -/
def powerOfTen (n : Nat) : Nat := Binary.double.nearest (Nat.pow 10 n) 1

/-- A double divided repeatedly by `1e308`. -/
def divideRepeatedly (f : Nat) : Nat → Nat
  | 0 => f
  | times + 1 =>
    if f = 0 then 0 else divideRepeatedly (Binary.double.over f (powerOfTen 308)) times

/-- A double divided by a power of ten, in steps where the power is too great for a double. -/
def divideByPower (f n : Nat) : Nat :=
  let times := (n - 1) / 308
  Binary.double.over (divideRepeatedly f times) (powerOfTen (n - 308 * times))

/-- The double of a significand and an exponent; `none` past the greatest double. -/
def scaled? (significand : Nat) (exponent : Int) : Option Nat :=
  let f := Binary.double.nearest significand 1
  if exponent < 0 then some (divideByPower f (-exponent).toNat)
  else if exponent ≤ 308 then
    let product := Binary.double.times f (powerOfTen exponent.toNat)
    if product = Binary.double.infinity then none else some product
  else if f = 0 then some 0
  else none

/-- The greatest exponent that is computed with. -/
def exponentBound : Nat := 0x7FFFFFFF

/-- An exponent within the bounds of 32 bits. -/
def clampExponent (e : Int) : Int := max (-0x80000000) (min e exponentBound)

/-- The magnitude of a number that is not an integer of 64 bits; `none` past the greatest double. -/
def magnitude? (n : Numeral) : Option Nat :=
  let (significand, extra) := takeWhole 0 0 n.whole
  let (significand, taken) := takeFraction significand 0 (n.fraction.getD [])
  let shift : Int := extra - taken
  match n.exponent with
  | none => scaled? significand shift
  | some (negative, digits) =>
    let e := Decimal.value (digits.map fun b => Char.ofNat b.toNat)
    if exponentBound < e then if significand ≠ 0 ∧ !negative then none else some 0
    else scaled? significand (clampExponent (if negative then shift - e else shift + e))

/-- The kinds an integer is read as, the narrowest first. -/
def integerKinds : List IntegerKind := [.int, .long, .ulong]

/-- The integer that a number without point and exponent denotes, when 64 bits hold it. Negative
zero is no integer. -/
def Numeral.integer? (n : Numeral) : Option Integer :=
  match n.fraction, n.exponent with
  | none, none =>
    let magnitude := Decimal.value (n.whole.map fun b => Char.ofNat b.toNat)
    if n.negative then
      if magnitude = 0 then none else Integer.narrowest? [.int, .long] (-(magnitude : Int))
    else Integer.narrowest? integerKinds magnitude
  | _, _ => none

/-- The value that a number denotes; `none` for one past the greatest double. -/
def Numeral.value? (n : Numeral) : Option Value :=
  match n.integer? with
  | some i => some (.integer i)
  | none => (magnitude? n).map fun m => .double (Binary.double.withSign n.negative m).toUInt64

end Parcel.Json
