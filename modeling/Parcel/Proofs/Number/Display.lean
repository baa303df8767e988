import Parcel.Number.Layout
import Parcel.Proofs.Number.Decimal
import Parcel.Proofs.Number.Shortest

/-!
# Plain floating-point text reads back

A pattern that denotes a number is written as digits and a point, and the nearest pattern to these
digits is the pattern itself. The digits are the shortest ones that round to the number; placing
the point changes neither the number they denote nor, at the scale of the format, which of the
shortcuts for very large and very small decimals are taken.

## Main definitions

* `Binary.Format.Ordinary` — a format whose exponents reach far past its fraction bits
* `Binary.Format.quieted` — one pattern for everything that denotes no number
* `Number.isDisplayed` — the characters that are displayed

## Main results

* `Binary.Format.nearestDecimal_eq` — a decimal that rounds to a number is read as that number
* `Number.read?_display`, `Number.read?_display_eq` — what is displayed reads back
* `Number.all_isDisplayed_display` — no other character is displayed
-/

namespace Parcel.Binary.Format

variable {f : Format} {m : Nat} {e : Int} {bits : Nat} {negative : Bool}

/-- A format whose exponents reach far past its fraction bits, which are no more than the digits
of the shortest decimals can tell apart. -/
structure Ordinary (f : Format) : Prop where
  narrow : f.fractionBits ≤ 60
  reach : f.fractionBits + 2 ≤ 2 ^ (f.exponentBits - 1)

theorem ordinary_single : single.Ordinary := ⟨by decide, by decide⟩

theorem ordinary_double : double.Ordinary := ⟨by decide, by decide⟩

theorem Ordinary.pow_eq (ordinary : f.Ordinary) :
    2 ^ f.exponentBits = 2 * 2 ^ (f.exponentBits - 1) := by
  have reach := ordinary.reach
  cases h : f.exponentBits with
  | zero =>
    rw [h] at reach
    omega
  | succ n => rw [Nat.add_sub_cancel, pow_succ, Nat.mul_comm]

/-- The exponent `e` of a finite pattern is bounded by the width of the exponent field. -/
theorem Canonical.exponent_lt (canonical : f.Canonical m e) (finite : f.pattern m e < f.infinity) :
    e - f.leastExponent + 1 < (2 ^ f.exponentBits : ℕ) ∨ e = f.leastExponent := by
  rcases canonical.least_le.lt_or_eq with above | least
  · left
    have m_ge := canonical.pow_le above
    simp only [pattern, infinity, Nat.pow_eq] at finite
    generalize steps_eq : (e - f.leastExponent).toNat = steps at finite
    have scaled : (steps + 1) * 2 ^ f.fractionBits <
        (2 ^ f.exponentBits - 1) * 2 ^ f.fractionBits := by
      rw [Nat.add_mul, Nat.one_mul]
      omega
    have steps_lt := Nat.lt_of_mul_lt_mul_right scaled
    omega
  · exact .inr least.symm

section Decimal

variable {c : Nat} {k : Int}

/-- A decimal that `Rounds` to a number of the format is not too large to be computed. -/
theorem exponent_le_reach (ordinary : f.Ordinary) (canonical : f.Canonical m e)
    (finite : f.pattern m e < f.infinity) (rounds : f.Rounds m e (c * 10 ^ k)) (positive : 0 < c) :
    k ≤ (2 ^ f.exponentBits : ℕ) := by
  have doubled := ordinary.pow_eq
  have range := canonical.exponent_lt finite
  simp only [leastExponent, Nat.pow_eq] at range
  generalize 2 ^ f.exponentBits = bound at doubled range ⊢
  by_contra above
  -- the decimal would be past the power of two that bounds every finite number
  have power_le : (2 : ℚ) ^ (bound : ℤ) ≤ c * 10 ^ k := by
    have one_le : (1 : ℚ) ≤ c := by exact_mod_cast positive
    calc (2 : ℚ) ^ (bound : ℤ) ≤ 2 ^ k :=
          zpow_le_zpow_right₀ (by norm_num) (by omega)
      _ ≤ 10 ^ k := zpow_le_zpow_left₀ (by omega) (by norm_num) (by norm_num)
      _ ≤ c * 10 ^ k := le_mul_of_one_le_left (by positivity) one_le
  have below := Format.exponent_lt power_le (rounds.lt_pow canonical)
  have reach := ordinary.reach
  generalize 2 ^ (f.exponentBits - 1) = half at doubled range reach
  omega

/-- Nor is it too small. -/
theorem neg_reach_le_exponent (ordinary : f.Ordinary) (canonical : f.Canonical m e)
    (rounds : f.Rounds m e (c * 10 ^ k)) : -((2 ^ f.exponentBits : ℕ) + c.log2 : ℤ) ≤ k := by
  have doubled := ordinary.pow_eq
  generalize 2 ^ f.exponentBits = bound at doubled ⊢
  by_contra below
  -- the decimal would be less than half the least positive number, which rounds to nothing else
  have c_lt : (c : ℚ) < 2 ^ ((c.log2 : ℤ) + 1) := by exact_mod_cast Nat.lt_log2_self
  have power_le : (10 : ℚ) ^ k ≤ 2 ^ k := by
    obtain ⟨n, rfl⟩ : ∃ n : ℕ, k = -n := ⟨(-k).toNat, by omega⟩
    rw [zpow_neg, zpow_neg, zpow_natCast, zpow_natCast]
    gcongr
    norm_num
  have small : (c : ℚ) * 10 ^ k < 2 ^ (((c.log2 : ℤ) + 1) + k) := by
    rw [zpow_add₀ two_ne_zero]
    calc (c : ℚ) * 10 ^ k ≤ c * 2 ^ k := by gcongr
      _ < _ := by gcongr
  have large : (2 : ℚ) ^ (f.leastExponent - 1) ≤ c * 10 ^ k := by
    have gap : (f.gapBelow m e : ℚ) ≤ 2 := by exact_mod_cast gapBelow_le
    have m_ge : (1 : ℚ) ≤ m := by exact_mod_cast canonical.positive
    have least_le := canonical.least_le
    calc (2 : ℚ) ^ (f.leastExponent - 1) ≤ 2 ^ (e - 1) :=
          zpow_le_zpow_right₀ (by norm_num) (by omega)
      _ = 2 * 2 ^ (e - 2) := by
          rw [← zpow_one_add₀ two_ne_zero]
          congr 1
          ring
      _ ≤ (4 * m - f.gapBelow m e) * 2 ^ (e - 2) := by
          gcongr
          linarith
      _ ≤ _ := rounds.low
  have close := Format.exponent_lt large small
  have reach := ordinary.reach
  simp only [leastExponent, Nat.pow_eq] at close
  generalize 2 ^ (f.exponentBits - 1) = half at doubled close reach
  omega

/-- A decimal that `Rounds` to a number is read as that number. -/
theorem nearestDecimal_eq (ordinary : f.Ordinary) (canonical : f.Canonical m e)
    (finite : f.pattern m e < f.infinity) (rounds : f.Rounds m e (c * 10 ^ k)) :
    f.nearestDecimal c k = f.pattern m e := by
  have c_pos : 0 < c := by
    have positive := rounds.pos canonical.positive
    rcases Nat.eq_zero_or_pos c with rfl | c_pos
    · simp at positive
    · exact c_pos
  have not_large := exponent_le_reach ordinary canonical finite rounds c_pos
  have not_small := neg_reach_le_exponent ordinary canonical rounds
  unfold nearestDecimal
  simp only [Nat.pow_eq]
  rw [if_neg c_pos.ne', if_neg (not_lt.2 not_large), if_neg (not_lt.2 not_small)]
  rw [← Nat.min_eq_left finite.le]
  split
  · next nonneg =>
    obtain ⟨n, rfl⟩ := Int.eq_ofNat_of_zero_le nonneg
    refine nearest_eq canonical one_pos ?_
    simpa using rounds
  · next negative =>
    obtain ⟨n, rfl⟩ : ∃ n : ℕ, k = -n := ⟨(-k).toNat, by omega⟩
    refine nearest_eq canonical (Nat.pow_pos (by decide)) ?_
    simpa [div_eq_mul_inv] using rounds

end Decimal

section Pattern

/-- A pattern, with `quietNaN` in place of any that denotes no number. -/
def quieted (f : Format) (bits : Nat) : Nat := if f.isNaN bits then f.quietNaN else bits

/-- A pattern is its `magnitude` with its sign. -/
theorem withSign_magnitude (bounded : bits < 2 * f.signBit) :
    f.withSign (f.isNegative bits) (f.magnitude bits) = bits := by
  unfold withSign isNegative magnitude
  by_cases negative : f.signBit ≤ bits
  · rw [if_pos (by simpa using negative), Nat.mod_eq_sub_mod negative, Nat.mod_eq_of_lt (by omega)]
    omega
  · rw [if_neg (by simpa using negative), Nat.mod_eq_of_lt (by omega)]

theorem read_eq_nan_iff : f.read bits = .nan ↔ f.isNaN bits := by
  unfold read isNaN
  grind

theorem infinite_of_read (found : f.read bits = .infinite negative) :
    negative = f.isNegative bits ∧ f.magnitude bits = f.infinity := by
  unfold read at found
  grind

/-- A finite pattern is the one of its mantissa `m` and exponent `e`, which are canonical unless the
pattern is that of a zero. -/
theorem finite_of_read (found : f.read bits = .finite negative m e) :
    negative = f.isNegative bits ∧ f.magnitude bits = f.pattern m e ∧
      f.pattern m e < f.infinity ∧ (m = 0 ∧ f.magnitude bits = 0 ∨ f.Canonical m e) := by
  have fraction_lt : f.magnitude bits % 2 ^ f.fractionBits < 2 ^ f.fractionBits :=
    Nat.mod_lt _ (Nat.pow_pos (by decide))
  have parts := Nat.div_add_mod' (f.magnitude bits) (2 ^ f.fractionBits)
  unfold read at found
  simp only [Nat.pow_eq] at found
  split_ifs at found with above top subnormal
  all_goals obtain ⟨rfl, rfl, rfl⟩ := Number.finite.inj found
  · -- the least exponent, without a leading bit
    rw [subnormal, Nat.zero_mul, Nat.zero_add] at parts
    have pattern_eq : f.magnitude bits =
        f.pattern (f.magnitude bits % 2 ^ f.fractionBits) f.leastExponent := by
      rw [pattern, sub_self, Int.toNat_zero, Nat.zero_mul, Nat.zero_add, parts]
    refine ⟨rfl, pattern_eq, by omega, ?_⟩
    rcases Nat.eq_zero_or_pos (f.magnitude bits) with zero | positive
    · exact .inl ⟨by omega, zero⟩
    · refine .inr ⟨by omega, ?_, le_rfl, fun h => absurd h (lt_irrefl _)⟩
      rw [pow_succ]
      omega
  · -- the exponent field counts from one, and its step is the leading bit of the mantissa
    generalize f.magnitude bits / 2 ^ f.fractionBits = field at parts subnormal
    generalize f.magnitude bits % 2 ^ f.fractionBits = fraction at parts fraction_lt
    obtain ⟨steps, rfl⟩ := Nat.exists_eq_succ_of_ne_zero subnormal
    rw [Nat.succ_mul] at parts
    have pattern_eq : f.magnitude bits =
        f.pattern (2 ^ f.fractionBits + fraction) (f.leastExponent + (steps.succ - 1 : ℕ)) := by
      rw [pattern, add_sub_cancel_left, Int.toNat_natCast, Nat.succ_sub_one]
      omega
    refine ⟨rfl, pattern_eq, by omega, .inr ⟨by omega, ?_, ?_, fun _ => Nat.le_add_right _ _⟩⟩
    · rw [pow_succ]
      omega
    · omega

end Pattern

end Parcel.Binary.Format

namespace Parcel.Number

open Binary (Format)

variable {f : Format} {bits : Nat} {ds ws : List Char} {point : Int}

/-! ## Digits around a point -/

theorem decimal?_digits (all : ws.all Decimal.isDigit) (nonempty : ws ≠ []) :
    decimal? ws = some (Decimal.value ws, 0) := by
  have whole := Decimal.takeWhile_isDigit_append all []
  have rest := Decimal.dropWhile_isDigit_append all []
  rw [List.append_nil] at whole rest
  unfold decimal?
  simp [whole, rest, nonempty]

theorem decimal?_point (ws fs : List Char) (allWhole : ws.all Decimal.isDigit)
    (allFraction : fs.all Decimal.isDigit) (nonempty : ws ++ fs ≠ []) :
    decimal? (ws ++ '.' :: fs) = some (Decimal.value (ws ++ fs), -(fs.length : Int)) := by
  have whole := Decimal.takeWhile_isDigit_append allWhole ('.' :: fs)
  have rest := Decimal.dropWhile_isDigit_append allWhole ('.' :: fs)
  have fraction := Decimal.takeWhile_isDigit_append allFraction []
  have finish := Decimal.dropWhile_isDigit_append allFraction []
  rw [List.append_nil] at fraction finish
  rw [List.takeWhile_cons_of_neg (by decide), List.append_nil] at whole
  rw [List.dropWhile_cons_of_neg (by decide)] at rest
  unfold decimal?
  simpa [whole, rest, fraction, finish] using nonempty

/-- Placing the point by `pointed` changes how the digits are scaled, not the number they denote. -/
theorem decimal?_pointed (point : Int) (all : ds.all Decimal.isDigit) (nonempty : ds ≠ []) :
    ∃ c k, decimal? (pointed [] ds point) = some (c, k) ∧
      (c : ℚ) * 10 ^ k = Decimal.value ds * 10 ^ (point - ds.length) := by
  unfold pointed
  -- zeros in front, zeros behind, or the point among the digits
  split_ifs with small whole
  · refine ⟨_, _, decimal?_point ['0'] _ (by decide) ?_ (by simp), ?_⟩
    · simpa [show Decimal.isDigit '0' by decide] using all
    · rw [← List.append_assoc, List.singleton_append, ← List.replicate_succ,
        Decimal.value_zeros_append]
      congr 2
      rw [List.length_append, List.length_replicate]
      push_cast
      omega
  · refine ⟨_, _, decimal?_digits ?_ (by simp [nonempty]), ?_⟩
    · simpa [show Decimal.isDigit '0' by decide] using all
    · rw [List.append_nil, Decimal.value_append_zeros, Nat.cast_mul, Nat.cast_pow, zpow_zero,
        mul_one, ← zpow_natCast]
      congr 2
      omega
  · refine ⟨_, _, decimal?_point _ _ ?_ ?_ (by simp [nonempty]), ?_⟩
    · exact List.all_eq_true.2 fun c mem => List.all_eq_true.1 all c (List.mem_of_mem_take mem)
    · exact List.all_eq_true.2 fun c mem => List.all_eq_true.1 all c (List.mem_of_mem_drop mem)
    · rw [List.take_append_drop, List.length_drop]
      congr 2
      omega

/-- Text that starts with a digit, so with neither a sign nor the letter of a word. -/
def StartsWithDigit (cs : List Char) : Prop := ∃ c rest, cs = c :: rest ∧ Decimal.isDigit c

theorem startsWithDigit_pointed (all : ds.all Decimal.isDigit) (nonempty : ds ≠ []) :
    StartsWithDigit (pointed [] ds point) := by
  obtain ⟨c, rest, rfl⟩ := List.exists_cons_of_ne_nil nonempty
  have digit : Decimal.isDigit c := List.all_eq_true.1 all c List.mem_cons_self
  unfold pointed
  split_ifs with small whole
  · exact ⟨'0', _, rfl, by decide⟩
  · exact ⟨c, _, rfl, digit⟩
  · obtain ⟨n, positive⟩ := Nat.exists_eq_succ_of_ne_zero (n := point.toNat) (by omega)
    rw [positive]
    exact ⟨c, _, rfl, digit⟩

section Reading

variable {cs : List Char}

/-- Digits in front rule out the words for what is not finite, so `magnitude?` is about a decimal.
-/
theorem magnitude?_of_startsWithDigit (start : StartsWithDigit cs) :
    magnitude? f cs = (decimal? cs).map fun (coefficient, exponent) =>
      f.nearestDecimal coefficient exponent := by
  obtain ⟨c, rest, rfl, digit⟩ := start
  -- words are compared in lower case, where a digit stays what it is
  have lower : c.toLower = c := by
    have range := Decimal.isDigit_iff.1 digit
    unfold Char.toLower
    refine dif_neg fun h => ?_
    have := UInt32.le_iff_toNat_le.1 h.1
    change 0x41 ≤ c.toNat at this
    omega
  have not_i : c ≠ 'i' := by
    rintro rfl
    exact absurd digit (by decide)
  have not_n : c ≠ 'n' := by
    rintro rfl
    exact absurd digit (by decide)
  unfold magnitude? lowered
  simp [lower, not_i, not_n]

/-- A sign in front of digits is the sign of the number. -/
theorem read?_signed (start : StartsWithDigit cs) (negative : Bool) :
    read? f ((if negative then ['-'] else []) ++ cs) =
      (magnitude? f cs).map (f.withSign negative) := by
  cases negative with
  | true => rfl
  | false =>
    obtain ⟨c, rest, rfl, digit⟩ := start
    have not_sign := Decimal.ne_sign_of_isDigit digit
    have unsigned : f.withSign false = id := rfl
    rw [unsigned, Option.map_id]
    simp [read?, not_sign.1, not_sign.2]

theorem magnitude?_zero : magnitude? f ['0'] = some 0 := by
  rw [magnitude?_of_startsWithDigit ⟨'0', [], rfl, by decide⟩]
  rfl

theorem write_eq_append (l : Layout) (negative : Bool) (m : Nat) (e : Int) :
    l.write f negative m e = (if negative then ['-'] else []) ++ l.write f false m e := by
  unfold Layout.write
  split_ifs <;> simp_all

section Plain

variable {m : Nat} {e : Int}

theorem plain_write_eq_pointed (negative : Bool) (positive : 0 < m) :
    plain.write f negative m e = (if negative then ['-'] else []) ++
      pointed [] (Decimal.ofNat (Shortest.ofFinite f .up m e).coefficient)
        ((Shortest.ofFinite f .up m e).exponent +
          (Decimal.ofNat (Shortest.ofFinite f .up m e).coefficient).length) := by
  unfold Layout.write
  rw [if_neg positive.ne']
  rfl

theorem startsWithDigit_plain_write : StartsWithDigit (plain.write f false m e) := by
  rcases Nat.eq_zero_or_pos m with rfl | positive
  · exact ⟨'0', [], rfl, by decide⟩
  · rw [plain_write_eq_pointed false positive]
    exact startsWithDigit_pointed (Decimal.all_isDigit_ofNat _) (Decimal.ofNat_ne_nil _)

/-- What `plain` writes of a number is read as the number. -/
theorem magnitude?_plain_write (ordinary : f.Ordinary) (canonical : f.Canonical m e)
    (finite : f.pattern m e < f.infinity) :
    magnitude? f (plain.write f false m e) = some (f.pattern m e) := by
  have rounds := Shortest.rounds_ofFinite (e := e) ordinary.narrow canonical.positive
    canonical.lt_pow .up
  rw [magnitude?_of_startsWithDigit startsWithDigit_plain_write,
    plain_write_eq_pointed false canonical.positive]
  generalize Shortest.ofFinite f .up m e = d at rounds
  obtain ⟨c, k, read, value_eq⟩ :=
    decimal?_pointed (d.exponent + (Decimal.ofNat d.coefficient).length)
      (Decimal.all_isDigit_ofNat d.coefficient) (Decimal.ofNat_ne_nil _)
  rw [Decimal.value_ofNat, add_sub_cancel_right] at value_eq
  rw [Shortest.Decimal.toRat, ← value_eq] at rounds
  simp [read, Format.nearestDecimal_eq ordinary canonical finite rounds]

end Plain

/-- What `display` makes of a pattern that denotes a number reads back as that pattern. -/
theorem read?_display (ordinary : f.Ordinary) (bounded : bits < 2 * f.signBit)
    (number : f.isNaN bits = false) : read? f (display f bits) = some bits := by
  have sign := Format.withSign_magnitude bounded
  unfold display
  cases found : f.read bits with
  | nan =>
    rw [Format.read_eq_nan_iff.1 found] at number
    cases number
  | infinite negative =>
    obtain ⟨negative_eq, magnitude_eq⟩ := Format.infinite_of_read found
    rw [← negative_eq, magnitude_eq] at sign
    rw [← sign]
    cases negative <;> rfl
  | finite negative m e =>
    obtain ⟨negative_eq, magnitude_eq, finite, zero | canonical⟩ := Format.finite_of_read found
    · obtain ⟨rfl, zero⟩ := zero
      rw [← negative_eq, zero] at sign
      dsimp only
      rw [write_eq_append, read?_signed startsWithDigit_plain_write, ← sign]
      exact congrArg (Option.map _) magnitude?_zero
    · rw [← negative_eq, magnitude_eq] at sign
      dsimp only
      rw [write_eq_append, read?_signed startsWithDigit_plain_write,
        magnitude?_plain_write ordinary canonical finite, ← sign]
      rfl

/-- What `display` makes of a pattern that denotes no number reads back as `quietNaN`. -/
theorem read?_display_nan (absent : f.isNaN bits) :
    read? f (display f bits) = some f.quietNaN := by
  rw [display, Format.read_eq_nan_iff.2 absent]
  rfl

/-- Of what is displayed, only the pattern of no number is lost: what reads back is `quieted`. -/
theorem read?_display_eq (ordinary : f.Ordinary) (bounded : bits < 2 * f.signBit) :
    read? f (display f bits) = some (f.quieted bits) := by
  cases absent : f.isNaN bits with
  | true => rw [read?_display_nan absent, Format.quieted, if_pos absent]
  | false => rw [read?_display ordinary bounded absent, Format.quieted, absent]; rfl

end Reading

/-- The characters that are displayed: digits, the sign, the point and the letters of the words. -/
def isDisplayed (c : Char) : Bool :=
  Decimal.isDigit c || ['-', '.', 'i', 'n', 'f', 'N', 'a'].contains c

theorem all_isDisplayed_pointed (all : ds.all Decimal.isDigit) :
    (pointed [] ds point).all isDisplayed := by
  have digits : ∀ c ∈ ds, isDisplayed c := fun c mem => by
    rw [isDisplayed, List.all_eq_true.1 all c mem, Bool.true_or]
  have zero : isDisplayed '0' := by decide
  have dot : isDisplayed '.' := by decide
  rw [List.all_eq_true]
  intro c mem
  unfold pointed at mem
  split_ifs at mem
  · simp only [List.mem_cons, List.mem_append, List.mem_replicate] at mem
    obtain rfl | rfl | ⟨-, rfl⟩ | mem := mem
    · exact zero
    · exact dot
    · exact zero
    · exact digits c mem
  · simp only [List.mem_append, List.mem_replicate, List.not_mem_nil, or_false] at mem
    obtain mem | ⟨-, rfl⟩ := mem
    · exact digits c mem
    · exact zero
  · simp only [List.mem_append, List.mem_cons] at mem
    obtain mem | rfl | mem := mem
    · exact digits c (List.mem_of_mem_take mem)
    · exact dot
    · exact digits c (List.mem_of_mem_drop mem)

theorem all_isDisplayed_display : (display f bits).all isDisplayed := by
  unfold display
  cases f.read bits with
  | nan => rfl
  | infinite negative => cases negative <;> rfl
  | finite negative m e =>
    dsimp only
    rw [write_eq_append, List.all_append, Bool.and_eq_true]
    refine ⟨by cases negative <;> decide, ?_⟩
    rcases Nat.eq_zero_or_pos m with rfl | positive
    · exact (by decide : ['0'].all isDisplayed = true)
    · rw [plain_write_eq_pointed false positive]
      exact all_isDisplayed_pointed (Decimal.all_isDigit_ofNat _)

end Parcel.Number
