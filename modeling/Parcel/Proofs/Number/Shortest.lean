import Parcel.Number.Shortest
import Parcel.Proofs.Number.Rounding
import Mathlib.Data.Nat.Cast.Order.Field
import Mathlib.Data.Rat.Floor

/-!
# Shortest decimals round back

The search for the shortest decimal of a number always ends on a decimal of the number's interval.
Every grid is tried completely, since the neighbours of the number are the only candidates; and the
twentieth grid has a point in the interval, since its step is less than the interval is wide.

## Main definitions

* `Shortest.Decimal.toRat` — the rational that a decimal denotes
* `Shortest.Interval.Contains` — the reals of an interval

## Main results

* `Shortest.Interval.neighbour?_ne_none` — a grid with a point in the interval is not passed over
* `Shortest.Interval.contains_search` — the search ends in the interval
* `Shortest.rounds_ofFinite` — the shortest decimal of a number rounds to it
-/

namespace Parcel.Shortest

open Binary (Format)

/-- The rational that a decimal denotes. -/
def Decimal.toRat (d : Decimal) : ℚ := d.coefficient * 10 ^ d.exponent

theorem Decimal.toRat_strip (d : Decimal) (n : Nat) : (d.strip n).toRat = d.toRat := by
  induction n generalizing d with
  | zero => rfl
  | succ n ih =>
    rw [strip]
    split_ifs with trailing
    · rw [ih, toRat, toRat]
      have whole : ((d.coefficient / 10 : ℕ) : ℚ) * 10 = d.coefficient := by
        exact_mod_cast Nat.div_mul_cancel (Nat.dvd_of_mod_eq_zero trailing.2)
      rw [zpow_add_one₀ (by norm_num), ← whole]
      ring
    · rfl

/-- Either part of a split power is a natural number. -/
theorem zpow_mul_pow_toNat {b : ℚ} (h : b ≠ 0) (k : ℤ) : b ^ k * b ^ (-k).toNat = b ^ k.toNat := by
  rw [← zpow_natCast, ← zpow_natCast, ← zpow_add₀ h]
  congr 1
  omega

namespace Interval

variable {i : Interval} {tie : Tie} {x : ℚ}

/-- The reals of an interval; the ends belong to it if it is closed. -/
@[mk_iff]
structure Contains (i : Interval) (x : ℚ) : Prop where
  low_le : i.low ≤ x * i.unit
  le_high : x * i.unit ≤ i.high
  inside : i.closed = false → i.low < x * i.unit ∧ x * i.unit < i.high

/-- The points of a grid are the integers of the interval on it. -/
theorem contains_onGrid (k : ℤ) : (i.onGrid k).Contains x ↔ i.Contains (x * 10 ^ k) := by
  have up_pos : (0 : ℚ) < 10 ^ (-k).toNat := by positivity
  have scaled : x * ((i.onGrid k).unit : ℚ) = x * 10 ^ k * i.unit * 10 ^ (-k).toNat := by
    calc x * ((i.onGrid k).unit : ℚ) = x * i.unit * 10 ^ k.toNat := by
          simp only [onGrid, Nat.pow_eq]
          push_cast
          ring
      _ = x * i.unit * (10 ^ k * 10 ^ (-k).toNat) := by rw [zpow_mul_pow_toNat (by norm_num)]
      _ = _ := by ring
  have low : ((i.onGrid k).low : ℚ) = i.low * 10 ^ (-k).toNat := by simp [onGrid]
  have high : ((i.onGrid k).high : ℚ) = i.high * 10 ^ (-k).toNat := by simp [onGrid]
  have closed : (i.onGrid k).closed = i.closed := rfl
  rw [contains_iff, contains_iff, scaled, low, high, closed, mul_le_mul_iff_left₀ up_pos,
    mul_le_mul_iff_left₀ up_pos, mul_lt_mul_iff_left₀ up_pos, mul_lt_mul_iff_left₀ up_pos]

theorem contains_natCast {n : Nat} : i.Contains n ↔
    i.low ≤ n * i.unit ∧ n * i.unit ≤ i.high ∧
      (i.closed = false → i.low < n * i.unit ∧ n * i.unit < i.high) := by
  constructor
  · intro h
    exact ⟨by exact_mod_cast h.low_le, by exact_mod_cast h.le_high,
      fun opened => by exact_mod_cast h.inside opened⟩
  · rintro ⟨low, high, inside⟩
    exact ⟨by exact_mod_cast low, by exact_mod_cast high,
      fun opened => by exact_mod_cast inside opened⟩

/-- A `neighbour?` is only taken when it lies in the interval. -/
theorem contains_of_neighbour? {n : Nat} (unit_pos : 0 < i.unit) (low_lt : i.low < i.exact)
    (lt_high : i.exact < i.high) (found : i.neighbour? tie = some n) : i.Contains n := by
  have below_le : i.exact / i.unit * i.unit ≤ i.exact := Nat.div_mul_le_self ..
  have lt_above : i.exact < (i.exact / i.unit + 1) * i.unit := by
    rw [Nat.mul_comm]
    exact Nat.lt_mul_div_succ _ unit_pos
  rw [contains_natCast]
  unfold neighbour? at found
  grind

/-- A grid with a point in the interval is not passed over. -/
theorem neighbour?_ne_none {n : Nat} (contains : i.Contains n) : i.neighbour? tie ≠ none := by
  rw [contains_natCast] at contains
  unfold neighbour?
  rcases Nat.lt_or_ge (i.exact / i.unit) n with above | below
  · have : (i.exact / i.unit + 1) * i.unit ≤ n * i.unit := Nat.mul_le_mul_right _ above
    grind
  · have : n * i.unit ≤ i.exact / i.unit * i.unit := Nat.mul_le_mul_right _ below
    grind

/-- The `search` stops at the first grid with a point in the interval, at such a point. -/
theorem contains_search (unit_pos : 0 < i.unit) (low_lt : i.low < i.exact)
    (lt_high : i.exact < i.high) {grids n j : Nat} {place : ℤ} (within : j < grids)
    (contains : i.Contains (n * 10 ^ (place - j))) :
    i.Contains (i.search tie place grids).toRat := by
  -- one grid less is one place further: the point known to exist gets one place closer
  induction grids generalizing place j with
  | zero => omega
  | succ grids ih =>
    rw [search]
    split
    · next m found =>
      have up_pos : 0 < Nat.pow 10 (-place).toNat := Nat.pow_pos (by decide)
      have down_pos : 0 < Nat.pow 10 place.toNat := Nat.pow_pos (by decide)
      exact (contains_onGrid place).1 (contains_of_neighbour? (Nat.mul_pos unit_pos down_pos)
        (Nat.mul_lt_mul_of_pos_right low_lt up_pos) (Nat.mul_lt_mul_of_pos_right lt_high up_pos)
        found)
    · next absent =>
      cases j with
      | zero =>
        rw [Nat.cast_zero, sub_zero] at contains
        exact absurd absent (neighbour?_ne_none ((contains_onGrid place).2 contains))
      | succ j =>
        refine ih (j := j) (by omega) ?_
        rwa [sub_sub, add_comm 1, ← Nat.cast_succ]

/-- Thirty thousand one hundred and three of a hundred thousand decimal places are no less than a
binary one. -/
theorem two_pow_le_ten_pow (k : Nat) : 2 ^ k ≤ 10 ^ (k * 30103 / 100000 + 1) := by
  -- comparing hundred thousandth powers turns the ratio of the logarithms into one of integers
  have unit : 2 ^ 100000 ≤ 10 ^ 30103 := by decide +kernel
  refine (Nat.pow_le_pow_iff_left (n := 100000) (by decide)).1 ?_
  calc (2 ^ k) ^ 100000 = (2 ^ 100000) ^ k := by rw [← pow_mul, ← pow_mul, mul_comm]
    _ ≤ (10 ^ 30103) ^ k := Nat.pow_le_pow_left unit k
    _ = 10 ^ (30103 * k) := by rw [← pow_mul]
    _ ≤ 10 ^ ((k * 30103 / 100000 + 1) * 100000) := Nat.pow_le_pow_right (by decide) (by omega)
    _ = _ := by rw [pow_mul]

/-- The search starts at a grid no coarser than the number. -/
theorem ten_pow_leadingPlace_le (unit_pos : 0 < i.unit) (exact_pos : 0 < i.exact) :
    (10 : ℚ) ^ i.leadingPlace ≤ i.exact / i.unit := by
  unfold leadingPlace
  dsimp only
  generalize places_eq : (i.unit.log2 + 1) * 30103 / 100000 + 1 = places
  have unit_le : i.unit ≤ 10 ^ places := by
    rw [← places_eq]
    exact Nat.lt_log2_self.le.trans (two_pow_le_ten_pow _)
  generalize whole_eq : i.exact * Nat.pow 10 places / i.unit = whole
  rw [Nat.pow_eq] at whole_eq
  have whole_pos : 0 < whole := by
    rw [← whole_eq]
    refine Nat.div_pos (unit_le.trans ?_) unit_pos
    exact Nat.le_mul_of_pos_left _ exact_pos
  have whole_le : (whole : ℚ) ≤ i.exact * 10 ^ places / i.unit := by
    rw [← whole_eq]
    exact_mod_cast Nat.cast_div_le
  obtain ⟨length, length_eq⟩ : ∃ n, (Decimal.ofNat whole).length = n + 1 :=
    Nat.exists_eq_succ_of_ne_zero (by simp [Decimal.ofNat, Nat.toDigits_ne_nil])
  -- a numeral of one digit more than `length` is no less than the power
  have power_le : 10 ^ length ≤ whole := by
    by_contra below
    rcases Nat.eq_zero_or_pos length with rfl | length_pos
    · omega
    · have := (Nat.length_toDigits_le_iff (b := 10) (by decide) length_pos).2 (not_le.1 below)
      rw [Decimal.ofNat] at length_eq
      omega
  rw [length_eq, Nat.cast_succ, add_sub_cancel_right, zpow_sub₀ (by norm_num), zpow_natCast,
    zpow_natCast, div_le_iff₀ (by positivity)]
  calc (10 : ℚ) ^ length ≤ whole := by exact_mod_cast power_le
    _ ≤ i.exact * 10 ^ places / i.unit := whole_le
    _ = i.exact / i.unit * 10 ^ places := by ring

end Interval

section Number

variable {f : Format} {m : Nat} {e : ℤ} {x : ℚ}

theorem interval_unit_pos : 0 < (interval f m e).unit := Nat.pow_pos (by decide)

/-- The `interval` of a number holds what `Rounds` to the number. -/
theorem contains_interval (positive : 0 < m) :
    (interval f m e).Contains x ↔ f.Rounds m e x := by
  have unit_pos : (0 : ℚ) < 2 ^ (-(e - 2)).toNat := by positivity
  have split := zpow_mul_pow_toNat (b := 2) (by norm_num) (e - 2)
  have gap_le : f.gapBelow m e ≤ 4 * m := Binary.Format.gapBelow_le.trans (by omega)
  have low : ((interval f m e).low : ℚ) =
      (4 * m - f.gapBelow m e) * 2 ^ (e - 2) * 2 ^ (-(e - 2)).toNat := by
    rw [mul_assoc, split]
    change (((4 * m - f.gapBelow m e) * Nat.pow 2 (e - 2).toNat : ℕ) : ℚ) = _
    rw [Nat.cast_mul, Nat.cast_sub gap_le]
    push_cast
    simp
  have high : ((interval f m e).high : ℚ) =
      (4 * m + 2) * 2 ^ (e - 2) * 2 ^ (-(e - 2)).toNat := by
    rw [mul_assoc, split]
    simp [interval]
  have unit : ((interval f m e).unit : ℚ) = 2 ^ (-(e - 2)).toNat := by simp [interval]
  have closed : (interval f m e).closed = false ↔ m % 2 = 1 := by simp [interval]
  rw [Interval.contains_iff, Format.rounds_iff, closed, unit, low, high,
    mul_le_mul_iff_left₀ unit_pos, mul_le_mul_iff_left₀ unit_pos, mul_lt_mul_iff_left₀ unit_pos,
    mul_lt_mul_iff_left₀ unit_pos]

/-- A grid whose step is less than the gap between `low` and `high` has a point in the gap. -/
theorem exists_grid_point {low high : ℚ} {k : ℤ} (low_nonneg : 0 ≤ low)
    (step : 10 ^ k < high - low) : ∃ n : ℕ, low < n * 10 ^ k ∧ n * 10 ^ k < high := by
  have step_pos : (0 : ℚ) < 10 ^ k := by positivity
  refine ⟨⌊low / 10 ^ k⌋₊ + 1, ?_, ?_⟩
  · rw [← div_lt_iff₀ step_pos]
    exact_mod_cast Nat.lt_floor_add_one (low / 10 ^ k)
  · have floor_le : (⌊low / 10 ^ k⌋₊ : ℚ) * 10 ^ k ≤ low := by
      rw [← le_div_iff₀ step_pos]
      exact Nat.floor_le (by positivity)
    push_cast
    linarith

/-- Nineteen places after the leading one, the step is less than the interval is wide. -/
theorem step_lt (narrow : f.fractionBits ≤ 60) (lt_pow : m < 2 ^ (f.fractionBits + 1)) {p : ℤ}
    (leading : (10 : ℚ) ^ p ≤ m * 2 ^ e) : (10 : ℚ) ^ (p - 19) < 3 * 2 ^ (e - 2) := by
  have m_lt : (m : ℚ) < 2 ^ 61 := by
    have : 2 ^ (f.fractionBits + 1) ≤ 2 ^ 61 := Nat.pow_le_pow_right (by decide) (by omega)
    exact_mod_cast lt_pow.trans_le this
  have quarter : (2 : ℚ) ^ e = 4 * 2 ^ (e - 2) := by
    rw [zpow_sub₀ two_ne_zero]
    norm_num
    ring
  have quarter_pos : (0 : ℚ) < 2 ^ (e - 2) := by positivity
  rw [zpow_sub₀ (by norm_num), div_lt_iff₀ (by positivity)]
  calc (10 : ℚ) ^ p ≤ m * 2 ^ e := leading
    _ = m * 4 * 2 ^ (e - 2) := by rw [quarter]; ring
    _ ≤ 2 ^ 61 * 4 * 2 ^ (e - 2) := by gcongr
    _ < 3 * 10 ^ 19 * 2 ^ (e - 2) := mul_lt_mul_of_pos_right (by norm_num) quarter_pos
    _ = 3 * 2 ^ (e - 2) * 10 ^ (19 : ℤ) := by
      norm_cast
      ring

/-- The shortest decimal of a number, as `ofFinite` finds it, `Rounds` to it. -/
theorem rounds_ofFinite (narrow : f.fractionBits ≤ 60) (positive : 0 < m)
    (lt_pow : m < 2 ^ (f.fractionBits + 1)) (tie : Tie) :
    f.Rounds m e (ofFinite f tie m e).toRat := by
  have up_pos : 0 < Nat.pow 2 (e - 2).toNat := Nat.pow_pos (by decide)
  have low_lt : (interval f m e).low < (interval f m e).exact :=
    Nat.mul_lt_mul_of_pos_right (by split <;> omega) up_pos
  have lt_high : (interval f m e).exact < (interval f m e).high :=
    Nat.mul_lt_mul_of_pos_right (by omega) up_pos
  have exact_eq : ((interval f m e).exact : ℚ) / (interval f m e).unit = m * 2 ^ e := by
    have split := zpow_mul_pow_toNat (b := 2) (by norm_num) (e - 2)
    rw [div_eq_iff (by exact_mod_cast interval_unit_pos.ne')]
    simp only [interval, Nat.pow_eq]
    push_cast
    rw [← split, zpow_sub₀ two_ne_zero]
    ring
  have leading := Interval.ten_pow_leadingPlace_le interval_unit_pos (Nat.zero_lt_of_lt low_lt)
  rw [exact_eq] at leading
  -- the interval is at least three quarter units wide, which the last grid cannot step over
  have gap_le : (f.gapBelow m e : ℚ) ≤ 2 := by exact_mod_cast Format.gapBelow_le
  have one_le_gap : (1 : ℚ) ≤ f.gapBelow m e := by
    unfold Format.gapBelow
    split <;> norm_num
  have one_le_m : (1 : ℚ) ≤ m := by exact_mod_cast positive
  have low_nonneg : (0 : ℚ) ≤ (4 * m - f.gapBelow m e) * 2 ^ (e - 2) :=
    mul_nonneg (by linarith) (by positivity)
  have step : (10 : ℚ) ^ ((interval f m e).leadingPlace - 19) <
      (4 * m + 2) * 2 ^ (e - 2) - (4 * m - f.gapBelow m e) * 2 ^ (e - 2) := by
    refine (step_lt narrow lt_pow leading).trans_le ?_
    rw [← sub_mul]
    gcongr
    linarith
  obtain ⟨n, low, high⟩ := exists_grid_point low_nonneg step
  rw [ofFinite, Decimal.toRat_strip, ← contains_interval positive]
  refine Interval.contains_search interval_unit_pos low_lt lt_high (n := n) (j := 19) (by decide) ?_
  rw [contains_interval positive]
  exact ⟨low.le, high.le, fun _ => ⟨low, high⟩⟩

end Number

end Parcel.Shortest
