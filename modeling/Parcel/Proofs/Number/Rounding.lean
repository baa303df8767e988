import Parcel.Number.Binary
import Mathlib.Algebra.Order.Field.Power
import Mathlib.Tactic.FieldSimp
import Mathlib.Tactic.GCongr
import Mathlib.Tactic.Linarith
import Mathlib.Tactic.NormNum
import Mathlib.Tactic.Positivity
import Mathlib.Tactic.Ring
import Mathlib.Data.Rat.Cast.Order

/-!
# Rounding to a binary format

Every finite pattern has an interval of reals that round to it. Rounding any rational of that
interval gives the pattern back, also where the interval reaches below a power of two and the
rational has its leading bit one place lower than the number.

## Main definitions

* `Binary.Format.Canonical` — a mantissa and an exponent as a finite pattern has them
* `Binary.Format.Rounds` — the reals that round to a mantissa and an exponent
* `Binary.Format.pattern` — the magnitude bits of a mantissa and an exponent

## Main results

* `Binary.Format.nearest_eq` — rounding a rational of the interval
-/

namespace Parcel.Binary.Format

variable (f : Format)

/-- A rational within half a unit of the integer `m` rounds to it; at exactly half a unit the
integer has to be even. -/
theorem roundHalfEven_eq {num den m : Nat} (positive : 0 < den)
    (low : (m : ℚ) - 1 / 2 ≤ num / den) (high : (num / den : ℚ) ≤ m + 1 / 2)
    (inside : m % 2 = 1 → (m : ℚ) - 1 / 2 < num / den ∧ (num / den : ℚ) < m + 1 / 2) :
    roundHalfEven num den = m := by
  have positive' : (0 : ℚ) < den := by exact_mod_cast positive
  rw [le_div_iff₀ positive'] at low
  rw [div_le_iff₀ positive'] at high
  rw [lt_div_iff₀ positive', div_lt_iff₀ positive'] at inside
  have low' : 2 * (m * den) ≤ 2 * num + den := by
    have : (2 * (m * den) : ℚ) ≤ 2 * num + den := by linarith
    exact_mod_cast this
  have high' : 2 * num ≤ 2 * (m * den) + den := by
    have : (2 * num : ℚ) ≤ 2 * (m * den) + den := by linarith
    exact_mod_cast this
  have inside' : m % 2 = 1 → 2 * (m * den) < 2 * num + den ∧ 2 * num < 2 * (m * den) + den := by
    intro odd
    have := inside odd
    constructor
    · have : (2 * (m * den) : ℚ) < 2 * num + den := by linarith
      exact_mod_cast this
    · have : (2 * num : ℚ) < 2 * (m * den) + den := by linarith
      exact_mod_cast this
  unfold roundHalfEven
  -- the quotient is the integer itself if the rational is no less than it, and one less otherwise
  by_cases above : m * den ≤ num
  · have parts : num / den = m ∧ num % den = num - m * den :=
      (Nat.div_mod_unique positive).2 ⟨by rw [Nat.mul_comm den]; omega, by omega⟩
    simp only [parts.1, parts.2]
    split_ifs <;> omega
  · obtain ⟨k, rfl⟩ : ∃ k, m = k + 1 := Nat.exists_eq_succ_of_ne_zero (by rintro rfl; simp at above)
    rw [Nat.add_mul, Nat.one_mul] at above low' inside' high'
    have parts : num / den = k ∧ num % den = num - k * den :=
      (Nat.div_mod_unique positive).2 ⟨by rw [Nat.mul_comm den]; omega, by omega⟩
    simp only [parts.1, parts.2]
    split_ifs <;> omega

/-- The comparison that finds the leading bit needs no fractions. -/
theorem two_zpow_le_div_iff {num den : Nat} (den_pos : 0 < den) (k : ℤ) :
    (if 0 ≤ k then den * Nat.pow 2 k.toNat ≤ num else den ≤ num * Nat.pow 2 (-k).toNat) ↔
      (2 : ℚ) ^ k ≤ num / den := by
  rw [le_div_iff₀ (by exact_mod_cast den_pos)]
  split
  · next nonneg =>
    obtain ⟨n, rfl⟩ := Int.eq_ofNat_of_zero_le nonneg
    simp only [Nat.pow_eq, Int.toNat_natCast, zpow_natCast]
    rw [mul_comm]
    exact_mod_cast Iff.rfl
  · next negative =>
    obtain ⟨n, hn⟩ := Int.eq_ofNat_of_zero_le (show 0 ≤ -k by omega)
    obtain rfl : k = -n := by omega
    simp only [Nat.pow_eq, neg_neg, Int.toNat_natCast, zpow_neg, zpow_natCast]
    rw [inv_mul_le_iff₀ (by positivity), mul_comm]
    exact_mod_cast Iff.rfl

/-- The leading bit of a quotient is that of the leading bits of its parts, or one place lower. -/
theorem leadingBit_spec {num den : Nat} (num_pos : 0 < num) (den_pos : 0 < den) :
    (2 : ℚ) ^ leadingBit num den ≤ num / den ∧ (num / den : ℚ) < 2 ^ (leadingBit num den + 1) := by
  have den_pos' : (0 : ℚ) < den := by exact_mod_cast den_pos
  have num_low : (2 : ℚ) ^ num.log2 ≤ num := by exact_mod_cast Nat.log2_self_le num_pos.ne'
  have num_high : (num : ℚ) < 2 ^ (num.log2 + 1) := by exact_mod_cast Nat.lt_log2_self
  have den_low : (2 : ℚ) ^ den.log2 ≤ den := by exact_mod_cast Nat.log2_self_le den_pos.ne'
  have den_high : (den : ℚ) < 2 ^ (den.log2 + 1) := by exact_mod_cast Nat.lt_log2_self
  have above : (num / den : ℚ) < 2 ^ ((num.log2 : ℤ) - den.log2 + 1) := by
    rw [div_lt_iff₀ den_pos', sub_add_eq_add_sub, zpow_sub₀ two_ne_zero, zpow_natCast]
    calc (num : ℚ) < 2 ^ (num.log2 + 1) := num_high
      _ = 2 ^ ((num.log2 : ℤ) + 1) / 2 ^ den.log2 * 2 ^ den.log2 := by
        rw [div_mul_cancel₀ _ (by positivity)]; norm_cast
      _ ≤ 2 ^ ((num.log2 : ℤ) + 1) / 2 ^ den.log2 * den := by gcongr
  have below : (2 : ℚ) ^ ((num.log2 : ℤ) - den.log2 - 1) ≤ num / den := by
    rw [le_div_iff₀ den_pos', sub_sub, zpow_sub₀ two_ne_zero, zpow_natCast]
    calc (2 : ℚ) ^ num.log2 / 2 ^ ((den.log2 : ℤ) + 1) * den
        ≤ 2 ^ num.log2 / 2 ^ ((den.log2 : ℤ) + 1) * 2 ^ (den.log2 + 1) := by gcongr
      _ = 2 ^ num.log2 := by
        have : (2 : ℚ) ^ ((den.log2 : ℤ) + 1) = 2 ^ (den.log2 + 1) := by norm_cast
        rw [this, div_mul_cancel₀ _ (by positivity)]
      _ ≤ num := num_low
  -- the difference of the leading bits is right, or one too high
  unfold leadingBit
  dsimp only
  by_cases reached : (2 : ℚ) ^ ((num.log2 : ℤ) - den.log2) ≤ num / den
  · rw [if_pos ((two_zpow_le_div_iff den_pos _).2 reached)]
    exact ⟨reached, above⟩
  · rw [if_neg (mt (two_zpow_le_div_iff den_pos _).1 reached), sub_add_cancel]
    exact ⟨below, not_le.1 reached⟩

/-- The quarter units from a number down to the least real that rounds to it. -/
def gapBelow (m : Nat) (e : Int) : Nat :=
  if m = Nat.pow 2 f.fractionBits ∧ f.leastExponent < e then 1 else 2

/-- A mantissa `m` and an exponent `e` as a pattern has them. -/
structure Canonical (m : Nat) (e : Int) : Prop where
  positive : 0 < m
  lt_pow : m < 2 ^ (f.fractionBits + 1)
  least_le : f.leastExponent ≤ e
  pow_le : f.leastExponent < e → 2 ^ f.fractionBits ≤ m

/-- The reals that round to `m * 2 ^ e`; the ends do if the mantissa is even. -/
@[mk_iff]
structure Rounds (m : Nat) (e : Int) (x : ℚ) : Prop where
  low : (4 * m - f.gapBelow m e) * (2 : ℚ) ^ (e - 2) ≤ x
  high : x ≤ (4 * m + 2) * (2 : ℚ) ^ (e - 2)
  inside : m % 2 = 1 →
    (4 * m - f.gapBelow m e) * (2 : ℚ) ^ (e - 2) < x ∧ x < (4 * m + 2) * (2 : ℚ) ^ (e - 2)

/-- The magnitude bits of a mantissa and an exponent. -/
def pattern (m : Nat) (e : Int) : Nat := (e - f.leastExponent).toNat * 2 ^ f.fractionBits + m

variable {f} {m num den : Nat} {e : Int}

/-- A rational within half a unit of `m * 2 ^ e` has mantissa `m` under exponent `e`. -/
theorem mantissa_eq (den_pos : 0 < den)
    (low : (4 * m - 2) * (2 : ℚ) ^ (e - 2) ≤ num / den)
    (high : (num / den : ℚ) ≤ (4 * m + 2) * (2 : ℚ) ^ (e - 2))
    (inside : m % 2 = 1 → (4 * m - 2) * (2 : ℚ) ^ (e - 2) < num / den ∧
      (num / den : ℚ) < (4 * m + 2) * (2 : ℚ) ^ (e - 2)) :
    (if 0 ≤ e then roundHalfEven num (den * Nat.pow 2 e.toNat)
      else roundHalfEven (num * Nat.pow 2 (-e).toNat) den) = m := by
  have split : (2 : ℚ) ^ (e - 2) = 2 ^ e / 4 := by
    rw [zpow_sub₀ two_ne_zero]; norm_num
  have scaled_low : (m : ℚ) - 1 / 2 ≤ num / den / 2 ^ e := by
    rw [le_div_iff₀ (by positivity)]
    calc ((m : ℚ) - 1 / 2) * 2 ^ e = (4 * m - 2) * 2 ^ (e - 2) := by rw [split]; ring
      _ ≤ _ := low
  have scaled_high : (num / den / 2 ^ e : ℚ) ≤ m + 1 / 2 := by
    rw [div_le_iff₀ (by positivity)]
    calc _ ≤ (4 * m + 2) * (2 : ℚ) ^ (e - 2) := high
      _ = ((m : ℚ) + 1 / 2) * 2 ^ e := by rw [split]; ring
  have scaled_inside : m % 2 = 1 →
      (m : ℚ) - 1 / 2 < num / den / 2 ^ e ∧ (num / den / 2 ^ e : ℚ) < m + 1 / 2 := by
    intro odd
    rw [lt_div_iff₀ (by positivity), div_lt_iff₀ (by positivity)]
    constructor
    · calc ((m : ℚ) - 1 / 2) * 2 ^ e = (4 * m - 2) * 2 ^ (e - 2) := by rw [split]; ring
        _ < _ := (inside odd).1
    · calc _ < (4 * m + 2) * (2 : ℚ) ^ (e - 2) := (inside odd).2
        _ = ((m : ℚ) + 1 / 2) * 2 ^ e := by rw [split]; ring
  -- the power of two goes to the denominator or to the numerator, so that both stay natural
  split_ifs with nonneg
  · obtain ⟨n, rfl⟩ := Int.eq_ofNat_of_zero_le nonneg
    have moved : (num / den / 2 ^ (n : ℤ) : ℚ) = num / (den * Nat.pow 2 n : ℕ) := by
      rw [div_div, zpow_natCast]; norm_num
    rw [moved] at scaled_low scaled_high scaled_inside
    exact roundHalfEven_eq (Nat.mul_pos den_pos (Nat.pow_pos two_pos)) scaled_low scaled_high
      scaled_inside
  · obtain ⟨n, hn⟩ := Int.eq_ofNat_of_zero_le (show 0 ≤ -e by omega)
    obtain rfl : e = -n := by omega
    have moved : (num / den / 2 ^ (-n : ℤ) : ℚ) = (num * Nat.pow 2 n : ℕ) / den := by
      rw [zpow_neg, zpow_natCast, div_inv_eq_mul, div_mul_eq_mul_div]; norm_num
    rw [moved] at scaled_low scaled_high scaled_inside
    rw [hn]
    exact roundHalfEven_eq den_pos scaled_low scaled_high scaled_inside

theorem gapBelow_le : f.gapBelow m e ≤ 2 := by
  unfold gapBelow
  split <;> omega

theorem Rounds.pos (positive : 0 < m) {x : ℚ} (rounds : f.Rounds m e x) : 0 < x := by
  have gap : (f.gapBelow m e : ℚ) ≤ 2 := by exact_mod_cast gapBelow_le
  have m_ge : (1 : ℚ) ≤ m := by exact_mod_cast positive
  refine lt_of_lt_of_le ?_ rounds.low
  have : (0 : ℚ) < 4 * m - f.gapBelow m e := by linarith
  positivity

section Interval

variable {x : ℚ}

theorem zpow_mul_quarter (n : ℤ) : (2 : ℚ) ^ (n + 2) * 2 ^ (e - 2) = 2 ^ (n + e) := by
  rw [← zpow_add₀ two_ne_zero]
  congr 1
  ring

/-- Whatever `Rounds` to a number lies below the power of two past its mantissa's bits. -/
theorem Rounds.lt_pow (canonical : f.Canonical m e) (rounds : f.Rounds m e x) :
    x < 2 ^ ((f.fractionBits + 1 : ℤ) + e) := by
  have bound : 4 * m + 2 < 2 ^ (f.fractionBits + 1 + 2) := by
    have := canonical.lt_pow
    rw [pow_add 2 (f.fractionBits + 1) 2]
    omega
  calc x ≤ (4 * m + 2) * 2 ^ (e - 2) := rounds.high
    _ < 2 ^ ((f.fractionBits + 1 : ℤ) + 2) * 2 ^ (e - 2) := by
      gcongr
      exact_mod_cast bound
    _ = _ := zpow_mul_quarter _

/-- Only at a power of two does the interval reach below the power of two of the leading bit. -/
theorem Rounds.eq_pow_of_lt (m_ge : 2 ^ f.fractionBits ≤ m) (rounds : f.Rounds m e x)
    (below : x < 2 ^ ((f.fractionBits : ℤ) + e)) : m = 2 ^ f.fractionBits := by
  by_contra different
  have gap_eq : f.gapBelow m e = 2 := if_neg fun h => different h.1
  have m_gt : (2 : ℚ) ^ f.fractionBits + 1 ≤ m := by exact_mod_cast (by omega : _ + 1 ≤ m)
  rw [← zpow_mul_quarter] at below
  have scaled := lt_of_mul_lt_mul_right (rounds.low.trans_lt below) (by positivity)
  rw [gap_eq, zpow_add₀ two_ne_zero, zpow_natCast] at scaled
  norm_num at scaled
  linarith

/-- There it reaches down by a quarter of a unit, so the leading bit is at most one place lower. -/
theorem pow_lt_of_low (low : (4 * 2 ^ f.fractionBits - 1) * (2 : ℚ) ^ (e - 2) ≤ x) :
    (2 : ℚ) ^ ((f.fractionBits - 1 : ℤ) + e) ≤ x := by
  refine le_trans ?_ low
  have one_le : (1 : ℚ) ≤ 2 ^ f.fractionBits := one_le_pow₀ (by norm_num)
  have doubled : (2 : ℚ) ^ ((f.fractionBits - 1 : ℤ) + 2) = 2 * 2 ^ f.fractionBits := by
    rw [← zpow_natCast, ← zpow_one_add₀ two_ne_zero]
    congr 1
    ring
  rw [← zpow_mul_quarter, doubled]
  gcongr
  linarith

end Interval

theorem exponent_lt {j k : ℤ} {x : ℚ} (low : (2 : ℚ) ^ j ≤ x) (high : x < 2 ^ k) : j < k :=
  (zpow_lt_zpow_iff_right₀ (by norm_num : (1 : ℚ) < 2)).1 (low.trans_lt high)

/-- A rational just below a power of two has, under the exponent one less, the mantissa that is the
next power of two: rounding it up carries into the exponent. -/
theorem mantissa_eq_pow (den_pos : 0 < den)
    (low : (4 * 2 ^ f.fractionBits - 1) * (2 : ℚ) ^ (e - 2) ≤ num / den)
    (below : (num / den : ℚ) < 2 ^ ((f.fractionBits : ℤ) + e)) :
    (if 0 ≤ e - 1 then roundHalfEven num (den * Nat.pow 2 (e - 1).toNat)
      else roundHalfEven (num * Nat.pow 2 (-(e - 1)).toNat) den) = 2 ^ (f.fractionBits + 1) := by
  have halved : (2 : ℚ) ^ (e - 2) = 2 * 2 ^ (e - 1 - 2) := by
    rw [← zpow_one_add₀ two_ne_zero]
    congr 1
    ring
  refine mantissa_eq den_pos ?_ ?_ ?_
  · push_cast
    calc (4 * 2 ^ (f.fractionBits + 1) - 2) * (2 : ℚ) ^ (e - 1 - 2)
        = (4 * 2 ^ f.fractionBits - 1) * (2 * 2 ^ (e - 1 - 2)) := by ring
      _ = (4 * 2 ^ f.fractionBits - 1) * 2 ^ (e - 2) := by rw [halved]
      _ ≤ num / den := low
  · push_cast
    calc (num / den : ℚ) ≤ 2 ^ ((f.fractionBits : ℤ) + e) := below.le
      _ = 4 * 2 ^ (f.fractionBits + 1) * 2 ^ (e - 1 - 2) := by
        rw [← zpow_mul_quarter, halved, zpow_add₀ two_ne_zero, zpow_natCast]
        ring
      _ ≤ (4 * 2 ^ (f.fractionBits + 1) + 2) * 2 ^ (e - 1 - 2) := by
        gcongr
        linarith
  · intro odd
    rw [pow_succ] at odd
    omega

/-- Rounding by `nearest` gives back the number that a rational rounds to. -/
theorem nearest_eq (canonical : f.Canonical m e) (den_pos : 0 < den)
    (rounds : f.Rounds m e (num / den)) :
    f.nearest num den = min (f.pattern m e) f.infinity := by
  have num_pos : 0 < num := by
    have positive := rounds.pos canonical.positive
    rcases Nat.eq_zero_or_pos num with rfl | num_pos
    · simp at positive
    · exact num_pos
  obtain ⟨leading, trailing⟩ := leadingBit_spec num_pos den_pos
  have k_lt := exponent_lt leading (rounds.lt_pow canonical)
  unfold nearest
  rw [if_neg num_pos.ne']
  generalize leadingBit num den = k at leading trailing k_lt
  by_cases same : max f.leastExponent (k - f.fractionBits) = e
  · -- the leading bit is where the mantissa has it
    simp only [same]
    have gap : (f.gapBelow m e : ℚ) ≤ 2 := by exact_mod_cast gapBelow_le
    have low : (4 * m - 2) * (2 : ℚ) ^ (e - 2) ≤ (4 * m - f.gapBelow m e) * 2 ^ (e - 2) := by
      gcongr
    rw [mantissa_eq den_pos (low.trans rounds.low) rounds.high fun odd =>
      ⟨low.trans_lt (rounds.inside odd).1, (rounds.inside odd).2⟩]
    rfl
  · -- the rational lies just below a power of two, which it is rounded up to
    have above_least : f.leastExponent < e := by
      have := canonical.least_le
      omega
    have below : (num / den : ℚ) < 2 ^ ((f.fractionBits : ℤ) + e) :=
      trailing.trans_le (zpow_le_zpow_right₀ (by norm_num) (by omega))
    have m_eq := rounds.eq_pow_of_lt (canonical.pow_le above_least) below
    have gap_eq : f.gapBelow m e = 1 := if_pos ⟨m_eq, above_least⟩
    have low := rounds.low
    rw [gap_eq, m_eq] at low
    push_cast at low
    have k_gt := exponent_lt (pow_lt_of_low low) trailing
    have step : max f.leastExponent (k - f.fractionBits) = e - 1 := by omega
    have up : (e - f.leastExponent).toNat = (e - 1 - f.leastExponent).toNat + 1 := by omega
    simp only [step]
    rw [mantissa_eq_pow den_pos low below, pattern, up, m_eq, Nat.pow_eq]
    congr 1
    ring

end Parcel.Binary.Format
