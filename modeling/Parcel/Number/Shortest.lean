import Parcel.Number.Binary
import Parcel.Number.Decimal

/-!
# Shortest decimals

The shortest decimal that rounds back to a floating-point number, and of the shortest ones the
nearest. The decimals with `n` significant digits near a number form a grid; the number's two
neighbours on that grid are the only candidates, and the first grid on which one of them lies in
the interval of reals that round to the number gives the digits.

## Main definitions

* `Shortest.Decimal` — a coefficient and a power of ten
* `Shortest.ofFinite` — the shortest decimal of a finite number
-/

namespace Parcel.Shortest

/-- The number `coefficient * 10 ^ exponent`. -/
structure Decimal where
  /-- The significant digits as one integer. -/
  coefficient : Nat
  /-- The power of ten of the last digit. -/
  exponent : Int
  deriving DecidableEq, Inhabited

/-- Which of two equally near neighbours to take. -/
inductive Tie where
  /-- The greater one. -/
  | up
  /-- The one with an even last digit. -/
  | toEven
  deriving DecidableEq

/-- The reals that round to one number, all scaled by the same power of two: from `low` to `high`
over `unit`, with the number itself at `exact`. -/
structure Interval where
  /-- Lower end. -/
  low : Nat
  /-- The number. -/
  exact : Nat
  /-- Upper end. -/
  high : Nat
  /-- Common denominator. -/
  unit : Nat
  /-- Whether the ends themselves round to the number. -/
  closed : Bool

/-- The interval of `mantissa * 2 ^ exponent`. The gap below a power of two is half the gap above
it, except at the least exponent. -/
def interval (f : Binary.Format) (mantissa : Nat) (exponent : Int) : Interval :=
  let below := if mantissa = Nat.pow 2 f.fractionBits ∧ f.leastExponent < exponent then 1 else 2
  let scale := exponent - 2
  let up := Nat.pow 2 scale.toNat
  ⟨(4 * mantissa - below) * up, 4 * mantissa * up, (4 * mantissa + 2) * up,
    Nat.pow 2 (-scale).toNat, mantissa % 2 = 0⟩

/-- The interval with the grid of step `10 ^ exponent` made the integers. -/
def Interval.onGrid (i : Interval) (exponent : Int) : Interval :=
  let up := Nat.pow 10 (-exponent).toNat
  { i with low := i.low * up, exact := i.exact * up, high := i.high * up,
           unit := i.unit * Nat.pow 10 exponent.toNat }

/-- The integer nearest to the number among its two neighbours that lie in the interval, where `tie`
decides between two that are equally near. -/
def Interval.neighbour? (tie : Tie) (i : Interval) : Option Nat :=
  let below := i.exact / i.unit
  let above := below + 1
  let belowIn := if i.closed then i.low ≤ below * i.unit else i.low < below * i.unit
  let aboveIn := if i.closed then above * i.unit ≤ i.high else above * i.unit < i.high
  let remainder := i.exact % i.unit
  -- both stand for the number, so the nearer one is taken
  if belowIn ∧ aboveIn then
    if 2 * remainder < i.unit then some below
    else if i.unit < 2 * remainder then some above
    else match tie with
      | .up => some above
      | .toEven => some (if below % 2 = 0 then below else above)
  else if belowIn then some below
  else if aboveIn then some above
  else none

/-- The power of ten of the leading digit of the number. -/
def Interval.leadingPlace (i : Interval) : Int :=
  let places := (i.unit.log2 + 1) * 30103 / 100000 + 1
  ((Decimal.ofNat (i.exact * Nat.pow 10 places / i.unit)).length : Int) - 1 - places

/-- Tries grids of finer and finer step, starting at `10 ^ place`. -/
def Interval.search (tie : Tie) (i : Interval) (place : Int) : Nat → Decimal
  | 0 => ⟨i.exact / i.unit, 0⟩
  | grids + 1 =>
    match (i.onGrid place).neighbour? tie with
    | some n => ⟨n, place⟩
    | none => i.search tie (place - 1) grids

/-- Moves trailing zeros of the coefficient into the exponent. -/
def Decimal.strip (d : Decimal) : Nat → Decimal
  | 0 => d
  | n + 1 =>
    if d.coefficient ≠ 0 ∧ d.coefficient % 10 = 0 then
      Decimal.strip ⟨d.coefficient / 10, d.exponent + 1⟩ n
    else d

/-- The shortest decimal that rounds to the positive number `mantissa * 2 ^ exponent`. Seventeen
digits are enough for a double and nine for a single. -/
def ofFinite (f : Binary.Format) (tie : Tie) (mantissa : Nat) (exponent : Int) : Decimal :=
  let i := interval f mantissa exponent
  (i.search tie i.leadingPlace 20).strip 20

end Parcel.Shortest
