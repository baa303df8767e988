import Mathlib.Algebra.Order.Field.Power
import Mathlib.Algebra.Order.Floor.Semifield
import Mathlib.Data.ENat.Lattice
import Mathlib.Data.Rat.Floor
import Parcel.Metrics.Histogram

/-!
# Ranks of quantiles

A quantile is a double. Multiplied by the number of samples, as doubles are, and rounded up, it
gives the rank of a sample in sorted order, after it has been held between the first and the last.

## Main definitions

* `Binary.Number.ceil` — the least natural number that is not below a number
* `Binary.Format.multiple` — a multiple of a number, rounded to a format

## Main results

* `Histogram.ceiling_eq` — rounding up needs no fractions
* `Histogram.rank_eq` — the rank
-/

namespace Parcel

/-- The least natural number that is not below a number. No natural number is too small for what is
below zero or is not a number, and all are for infinity. -/
def Binary.Number.ceil : Number → ℕ∞
  | .nan => 0
  | .infinite negative => if negative then 0 else ⊤
  | .finite negative mantissa exponent =>
    (⌈(if negative then -1 else 1) * (mantissa * (2 : ℚ) ^ exponent)⌉₊ : ℕ)

/-- The product of `n` and a number, rounded to the nearest number of a format. -/
def Binary.Format.multiple (f : Format) (n : Nat) : Number → Number
  | .finite negative mantissa exponent =>
    match f.read (f.nearestScaled (n * mantissa) exponent) with
    | .finite _ mantissa exponent => .finite negative mantissa exponent
    | _ => .infinite negative
  | x => x

namespace Histogram

/-- Rounding up by `ceiling` needs no fractions. -/
theorem ceiling_eq (negative : Bool) (mantissa : Nat) (exponent : Int) :
    (ceiling negative mantissa exponent : ℕ∞) =
      (Binary.Number.finite negative mantissa exponent).ceil := by
  have nonneg : 0 ≤ (mantissa : ℚ) * 2 ^ exponent := by positivity
  rw [ceiling, Binary.Number.ceil, Nat.cast_inj]
  cases negative with
  | true =>
    refine (Nat.ceil_eq_zero.2 ?_).symm
    simpa using nonneg
  | false =>
    rw [if_neg Bool.false_ne_true, if_neg Bool.false_ne_true, one_mul]
    split
    · next whole =>
      obtain ⟨n, rfl⟩ := Int.eq_ofNat_of_zero_le whole
      have natural : (mantissa : ℚ) * 2 ^ (n : ℤ) = (mantissa * 2 ^ n : ℕ) := by simp
      rw [natural, Nat.ceil_natCast]
      rfl
    · next fraction =>
      obtain ⟨n, hn⟩ := Int.eq_ofNat_of_zero_le (show 0 ≤ -exponent by omega)
      obtain rfl : exponent = -n := by omega
      have positive : 0 < Nat.pow 2 n := Nat.two_pow_pos n
      rw [neg_neg, Int.toNat_natCast]
      -- both sides are below the same natural numbers
      refine eq_of_forall_ge_iff fun k => ?_
      rw [Nat.ceil_le, zpow_neg, zpow_natCast, ← div_eq_mul_inv,
        div_le_iff₀ (by positivity : (0 : ℚ) < 2 ^ n), Nat.div_le_iff_le_mul_add_pred positive]
      have scaled : (mantissa : ℚ) ≤ k * 2 ^ n ↔ mantissa ≤ k * Nat.pow 2 n := by
        rw [Nat.pow_eq]
        exact_mod_cast Iff.rfl
      rw [scaled, Nat.mul_comm]
      omega

/-- The `rank` of a quantile among `n` samples is the quantile of `n`, rounded up and held between
the first and the last rank. -/
theorem rank_eq (n quantile : Nat) :
    (rank n quantile : ℕ∞) =
      Max.max 1 (Min.min (Binary.double.multiple n (Binary.double.read quantile)).ceil n) := by
  have unbounded : ∀ negative : Bool, Min.min ((if negative then 0 else n : ℕ) : ℕ∞) n =
      Min.min (Binary.Number.infinite negative).ceil n := by
    intro negative
    cases negative <;> simp [Binary.Number.ceil]
  rw [rank, Nat.mono_cast.map_max, Nat.mono_cast.map_min, Nat.cast_one]
  congr 1
  cases Binary.double.read quantile with
  | nan => rfl
  | infinite negative => exact unbounded negative
  | finite negative mantissa exponent =>
    dsimp only [Binary.Format.multiple]
    cases Binary.double.read (Binary.double.nearestScaled (n * mantissa) exponent) with
    | finite other mantissa exponent =>
      dsimp only
      rw [ceiling_eq]
    | _ => exact unbounded negative

end Histogram

end Parcel
