import Parcel.Proofs.Number.Decimal
import Parcel.Toml.Scalar

/-!
# Scalars read back

A scalar is classified as a whole, after the longest run that could be one. A run of digits has no
sign that a date or a time needs, so it is read as a number, and the numeral of a number has no zero
in front that would be refused.

## Main results

* `Toml.classify?_ofNat` — the numeral of a number
* `Toml.scalar?_append` — a scalar up to the end of its line
-/

namespace Parcel.Toml

variable {s : List Char}

/-! ## Runs of digits -/

theorem not_mem_of_isDigit (digits : s.all Decimal.isDigit) {c : Char}
    (other : Decimal.isDigit c = false) : c ∉ s := by
  intro mem
  rw [List.all_eq_true.1 digits c mem] at other
  cases other

/-- No date has digits only. -/
theorem afterDate?_digits (digits : s.all Decimal.isDigit) : afterDate? s = none := by
  have dash := not_mem_of_isDigit digits (by decide : Decimal.isDigit '-' = false)
  unfold afterDate?
  split
  · exact absurd (by simp) dash
  · rfl

/-- Neither has a time. -/
theorem afterTime?_digits (digits : s.all Decimal.isDigit) : afterTime? s = none := by
  have colon := not_mem_of_isDigit digits (by decide : Decimal.isDigit ':' = false)
  have minutes : afterMinutes? s = none := by
    unfold afterMinutes?
    split
    · exact absurd (by simp) colon
    · rfl
  rw [afterTime?, minutes]
  rfl

theorem moment?_digits (digits : s.all Decimal.isDigit) : moment? s = none := by
  rw [moment?, isDateTime, afterDate?_digits digits, afterTime?_digits digits]
  rfl

/-- Digits without underscores are taken as they are. -/
theorem grouped?_digits (digits : s.all Decimal.isDigit) (some_digit : s ≠ []) :
    grouped? Decimal.isDigit s = some s := by
  induction s with
  | nil => exact absurd rfl some_digit
  | cons c s ih =>
    obtain ⟨first, rest⟩ := List.forall_mem_cons.1 (List.all_eq_true.1 digits)
    cases s with
    | nil => rw [grouped?, if_pos first]
    | cons d s =>
      have next : d ≠ '_' := by
        rintro rfl
        exact absurd (rest '_' List.mem_cons_self) (by decide)
      have more := ih (List.all_eq_true.2 rest) nofun
      rw [grouped?, if_pos first, more, Option.map_some]
      · rintro ⟨⟩
      · rintro t ⟨rfl, -⟩
        exact next rfl

/-! ## Numerals -/

/-- The numeral of a number has no zero in front. -/
theorem whole?_ofNat (n : Nat) : whole? (Decimal.ofNat n) = some (Decimal.ofNat n) := by
  have grouped := grouped?_digits (Decimal.all_isDigit_ofNat n) (Decimal.ofNat_ne_nil n)
  rw [whole?]
  · exact grouped
  · intro d rest zero
    rcases Nat.eq_zero_or_pos n with rfl | positive
    · rw [Decimal.ofNat, Nat.toDigits_zero] at zero
      cases zero
    · obtain ⟨c, cs, eq, other⟩ := Decimal.exists_ofNat_eq_cons_of_pos positive
      rw [eq] at zero
      exact other (List.cons.inj zero).1

theorem decimal?_ofNat {n : Nat} (bounded : (n : Int) ≤ greatestInteger) :
    decimal? (Decimal.ofNat n) = some (.integer n) := by
  have unsigned : signed (Decimal.ofNat n) = ([], Decimal.ofNat n) := by
    obtain ⟨c, cs, eq, digit⟩ := Decimal.exists_ofNat_eq_cons n
    have ⟨plus, minus⟩ := Decimal.ne_sign_of_isDigit digit
    rw [eq, signed]
    · rintro rest ⟨⟩
      exact plus rfl
    · rintro rest ⟨⟩
      exact minus rfl
  have least : leastInteger ≤ (n : Int) := by
    unfold leastInteger
    omega
  rw [decimal?, unsigned]
  simp [whole?_ofNat, Decimal.digits?_ofNat, ofInteger?, least, bounded]

/-- The numeral of a number is read as the number. -/
theorem classify?_ofNat {n : Nat} (bounded : (n : Int) ≤ greatestInteger) :
    classify? (Decimal.ofNat n) = some (.integer n) := by
  have digits := Decimal.all_isDigit_ofNat n
  have absent {c : Char} (other : Decimal.isDigit c = false) : c ∉ Decimal.ofNat n :=
    not_mem_of_isDigit digits other
  have read := decimal?_ofNat bounded
  generalize Decimal.ofNat n = run at *
  unfold classify?
  split
  · exact absurd (by simp) (absent (by decide : Decimal.isDigit 't' = false))
  · exact absurd (by simp) (absent (by decide : Decimal.isDigit 'f' = false))
  · exact absurd (by simp) (absent (by decide : Decimal.isDigit 'x' = false))
  · exact absurd (by simp) (absent (by decide : Decimal.isDigit 'o' = false))
  · exact absurd (by simp) (absent (by decide : Decimal.isDigit 'b' = false))
  · rw [moment?_digits digits, read]
    rfl

/-! ## Scalars -/

/-- A run of scalar characters is read up to the end of its line, as `classify?` has it. -/
theorem scalar?_append {item : Item} (run : s.all isScalarChar) (read : classify? s = some item)
    (rest : List Char) : scalar? (s ++ '\n' :: rest) = some (item, '\n' :: rest) := by
  have taken : (s ++ '\n' :: rest).takeWhile isScalarChar = s := by
    rw [List.takeWhile_append_of_pos (List.all_eq_true.1 run),
      List.takeWhile_cons_of_neg (by decide), List.append_nil]
  have left : (s ++ '\n' :: rest).dropWhile isScalarChar = '\n' :: rest := by
    rw [List.dropWhile_append_of_pos (List.all_eq_true.1 run),
      List.dropWhile_cons_of_neg (by decide)]
  rw [scalar?, taken, left, read]
  -- what follows is no blank, so the run is not joined to another one
  cases afterDate? s with
  | none => rfl
  | some more => cases more <;> rfl

end Parcel.Toml
