import Parcel.Proofs.Number.Display

/-!
# Widening keeps what denotes a number

A single as a double denotes a number exactly when the single does: what denotes none gets a
fraction of its own behind the greatest exponent, infinities stay infinities, and no finite number
is rounded to a magnitude past infinity.

## Main results

* `Binary.isNaN_widen`
-/

namespace Parcel.Binary

variable {m : Nat} {negative : Bool}

/-- A double whose magnitude is given denotes a number when the magnitude is not past infinity. -/
theorem isNaN_withSign_double (small : m < double.signBit) :
    double.isNaN (double.withSign negative m).toUInt64.toNat = decide (double.infinity < m) := by
  have sign : double.signBit = 2 ^ 63 := by decide
  rw [sign] at small
  have bits : (double.withSign negative m).toUInt64.toNat = double.withSign negative m := by
    rw [Nat.toUInt64, UInt64.toNat_ofNat', Format.withSign, sign]
    cases negative <;> simp <;> omega
  rw [bits, Format.isNaN, Format.magnitude, Format.withSign, sign]
  have magnitude : (if negative = true then 2 ^ 63 + m else m) % 2 ^ 63 = m := by
    cases negative <;> simp <;> omega
  rw [magnitude]

theorem nearestScaled_le (f : Format) (mantissa : Nat) (exponent : Int) :
    f.nearestScaled mantissa exponent ≤ f.infinity := by
  have nearest_le (num den : Nat) : f.nearest num den ≤ f.infinity := by
    rw [Format.nearest]
    split
    · exact Nat.zero_le _
    · exact Nat.min_le_right _ _
  rw [Format.nearestScaled]
  split
  · exact nearest_le _ _
  · exact nearest_le _ _

/-- The fraction of a single fits between the quiet pattern and the sign bit. -/
theorem quietNaN_add_lt (fraction : Nat) :
    double.quietNaN + fraction % Nat.pow 2 22 * Nat.pow 2 29 < double.signBit := by
  have quiet : double.quietNaN = 0x7FF8000000000000 := by decide
  have sign : double.signBit = 0x8000000000000000 := by decide
  have range : Nat.pow 2 22 = 4194304 := by decide
  have scale : Nat.pow 2 29 = 536870912 := by decide
  rw [quiet, sign, range, scale]
  omega

/-- A single denotes a number exactly when `widen` makes a double of it that does. -/
theorem isNaN_widen (bits : UInt32) :
    double.isNaN (widen bits).toNat = single.isNaN bits.toNat := by
  have infinity : double.infinity < double.signBit := by decide
  have kind : single.isNaN bits.toNat = true ↔ single.read bits.toNat = .nan :=
    Format.read_eq_nan_iff.symm
  rw [widen]
  cases read : single.read bits.toNat with
  | nan =>
    have quiet : double.infinity < double.quietNaN := by decide
    dsimp only
    rw [isNaN_withSign_double (quietNaN_add_lt _), kind.2 read, decide_eq_true_eq]
    exact Nat.lt_of_lt_of_le quiet (Nat.le_add_right _ _)
  | infinite negative =>
    have number : single.isNaN bits.toNat = false := by
      rw [Bool.eq_false_iff, ne_eq, kind, read]
      exact nofun
    dsimp only
    rw [isNaN_withSign_double infinity, number, decide_eq_false_iff_not]
    exact Nat.lt_irrefl _
  | finite negative mantissa exponent =>
    have number : single.isNaN bits.toNat = false := by
      rw [Bool.eq_false_iff, ne_eq, kind, read]
      exact nofun
    have finite := nearestScaled_le double mantissa exponent
    dsimp only
    rw [isNaN_withSign_double (Nat.lt_of_le_of_lt finite infinity), number,
      decide_eq_false_iff_not]
    exact Nat.not_lt.2 finite

end Parcel.Binary
