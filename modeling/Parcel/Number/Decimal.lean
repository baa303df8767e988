/-!
# Decimal numerals

The decimal text of an integer, and the integer that a decimal literal denotes.

## Main definitions

* `Decimal.ofNat`, `Decimal.ofInt` — the digits of a number, without padding
* `Decimal.digits?` — the number that a non-empty run of digits denotes
* `Decimal.natural?`, `Decimal.integer?` — the same with one optional sign
-/

namespace Parcel.Decimal

/-- The decimal digits of a natural number, without leading zeros. -/
def ofNat (n : Nat) : List Char := Nat.toDigits 10 n

/-- The decimal text of an integer: a minus sign only when it is negative. -/
def ofInt : Int → List Char
  | .ofNat n => ofNat n
  | .negSucc n => '-' :: ofNat (n + 1)

/-- The decimal text of a natural number as a string. -/
def text (n : Nat) : String := String.ofList (ofNat n)

/-- Whether a character is one of the ten ASCII digits. -/
def isDigit (c : Char) : Bool := '0' ≤ c && c ≤ '9'

/-- The number that a run of digits denotes; leading zeros are allowed. -/
def value (cs : List Char) : Nat := Nat.ofDigitChars 10 cs 0

/-- The number that a non-empty run of digits denotes; `none` for anything else. -/
def digits? (cs : List Char) : Option Nat :=
  if cs ≠ [] ∧ cs.all isDigit then some (value cs) else none

/-- A natural number with one optional plus sign. -/
def natural? : List Char → Option Nat
  | '+' :: cs => digits? cs
  | cs => digits? cs

/-- An integer with one optional sign of either kind. -/
def integer? : List Char → Option Int
  | '-' :: cs => (digits? cs).map fun n => -(n : Int)
  | cs => (natural? cs).map Int.ofNat

end Parcel.Decimal
