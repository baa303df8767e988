import Parcel.Number.Shortest

/-!
# Writing and reading floating-point text

A layout says how a format writes its shortest digits: how ties between equally short decimals go,
which magnitudes are written without an exponent, and what marks a whole number. Reading accepts
the usual decimal forms, and the words for infinity and for no number.

## Main definitions

* `Number.Layout`, `Number.Layout.write` — the text of a finite number
* `Number.plain` — digits and a point, never an exponent
* `Number.display` — the same, with words for the patterns that are not finite
* `Number.read?` — the bit pattern nearest to a literal
-/

namespace Parcel.Number

open Shortest (Tie)

/-- How a format lays out the shortest digits of a number. -/
structure Layout where
  /-- Which of two equally short and equally near decimals is written. -/
  tie : Tie
  /-- The leading digit's powers of ten that are written positionally; `none` for all of them. -/
  positional : Option (Int × Int)
  /-- What follows the digits of a whole number written positionally. -/
  whole : List Char

/-- Digits placed around a point that stands after the first `point` of them. -/
def pointed (whole digits : List Char) (point : Int) : List Char :=
  if point ≤ 0 then '0' :: '.' :: (List.replicate (-point).toNat '0' ++ digits)
  else if (digits.length : Int) ≤ point then
    digits ++ List.replicate (point.toNat - digits.length) '0' ++ whole
  else digits.take point.toNat ++ '.' :: digits.drop point.toNat

/-- One digit before the point, and the `exponent` with its sign. -/
def scientific (digits : List Char) (exponent : Int) : List Char :=
  let mantissa := match digits with
    | d :: e :: rest => d :: '.' :: e :: rest
    | short => short
  mantissa ++ 'e' :: (if exponent < 0 then [] else ['+']) ++ Decimal.ofInt exponent

/-- The text of the number `± mantissa * 2 ^ exponent` of format `f`. -/
def Layout.write (l : Layout) (f : Binary.Format) (negative : Bool) (mantissa : Nat)
    (exponent : Int) : List Char :=
  let sign := if negative then ['-'] else []
  if mantissa = 0 then sign ++ '0' :: l.whole
  else
    let d := Shortest.ofFinite f l.tie mantissa exponent
    let digits := Decimal.ofNat d.coefficient
    let point := d.exponent + digits.length
    let plain := match l.positional with
      | none => true
      | some (least, bound) => least ≤ point - 1 && point - 1 < bound
    sign ++ if plain then pointed l.whole digits point else scientific digits (point - 1)

/-- Digits and a point as far as they go, never an exponent; a whole number has no point. -/
def plain : Layout := ⟨.up, none, []⟩

/-- The plain text of a bit pattern of format `f`. -/
def display (f : Binary.Format) (bits : Nat) : List Char :=
  match f.read bits with
  | .nan => ['N', 'a', 'N']
  | .infinite negative => if negative then ['-', 'i', 'n', 'f'] else ['i', 'n', 'f']
  | .finite negative mantissa exponent => plain.write f negative mantissa exponent

/-- An unsigned decimal literal: a coefficient and the power of ten that it is multiplied by.
Digits may be missing on one side of the point, not on both. -/
def decimal? (cs : List Char) : Option (Nat × Int) :=
  let whole := cs.takeWhile Decimal.isDigit
  let afterWhole := cs.dropWhile Decimal.isDigit
  let (fraction, afterFraction) := match afterWhole with
    | '.' :: rest => (rest.takeWhile Decimal.isDigit, rest.dropWhile Decimal.isDigit)
    | rest => ([], rest)
  let digits := whole ++ fraction
  let shift := -(fraction.length : Int)
  if digits = [] then none
  else match afterFraction with
    | [] => some (Decimal.value digits, shift)
    | c :: rest =>
      if c = 'e' ∨ c = 'E' then
        (Decimal.integer? rest).map fun e => (Decimal.value digits, e + shift)
      else none

/-- The ASCII letters in lower case. -/
def lowered (cs : List Char) : List Char := cs.map Char.toLower

/-- The magnitude bits of an unsigned literal: decimals, the two words for infinity and the one
for no number, letters in either case. -/
def magnitude? (f : Binary.Format) (cs : List Char) : Option Nat :=
  let word := lowered cs
  if word = ['i', 'n', 'f'] ∨ word = ['i', 'n', 'f', 'i', 'n', 'i', 't', 'y'] then some f.infinity
  else if word = ['n', 'a', 'n'] then some f.quietNaN
  else (decimal? cs).map fun (coefficient, exponent) => f.nearestDecimal coefficient exponent

/-- The bit pattern nearest to a literal with one optional sign. -/
def read? (f : Binary.Format) : List Char → Option Nat
  | '-' :: cs => (magnitude? f cs).map (f.withSign true)
  | '+' :: cs => magnitude? f cs
  | cs => magnitude? f cs

end Parcel.Number
