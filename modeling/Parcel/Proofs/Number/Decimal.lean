import Mathlib.Algebra.Group.Nat.Defs
import Parcel.Number.Decimal

/-!
# Decimal numerals read back

The digits of a number denote the number, with or without a sign, and padding with zeros on the
left changes nothing.

## Main results

* `Decimal.value_ofNat`, `Decimal.value_zeros_append`, `Decimal.value_append_zeros`
* `Decimal.natural?_ofNat`, `Decimal.integer?_ofInt` — numerals read back
-/

namespace Parcel.Decimal

variable {c : Char} {cs : List Char}

theorem isDigit_iff : isDigit c ↔ 0x30 ≤ c.toNat ∧ c.toNat ≤ 0x39 := by
  simp only [isDigit, Bool.and_eq_true, decide_eq_true_eq]
  exact Iff.rfl

theorem takeWhile_isDigit_append (all : cs.all isDigit) (ds : List Char) :
    (cs ++ ds).takeWhile isDigit = cs ++ ds.takeWhile isDigit :=
  List.takeWhile_append_of_pos (List.all_eq_true.1 all)

theorem dropWhile_isDigit_append (all : cs.all isDigit) (ds : List Char) :
    (cs ++ ds).dropWhile isDigit = ds.dropWhile isDigit :=
  List.dropWhile_append_of_pos (List.all_eq_true.1 all)

theorem isDigit_of_mem_ofNat {n : Nat} (mem : c ∈ ofNat n) : isDigit c := by
  rw [isDigit_iff]
  exact Char.isDigit_iff_toNat.1 (Nat.isDigit_of_mem_toDigits (by decide) (by decide) mem)

theorem all_isDigit_ofNat (n : Nat) : (ofNat n).all isDigit :=
  List.all_eq_true.2 fun _ mem => isDigit_of_mem_ofNat mem

theorem ofNat_ne_nil (n : Nat) : ofNat n ≠ [] := Nat.toDigits_ne_nil

/-- A numeral starts with a digit, so with neither a sign nor a letter. -/
theorem exists_ofNat_eq_cons (n : Nat) : ∃ c cs, ofNat n = c :: cs ∧ isDigit c := by
  obtain ⟨c, cs, eq⟩ := List.exists_cons_of_ne_nil (ofNat_ne_nil n)
  exact ⟨c, cs, eq, isDigit_of_mem_ofNat (eq ▸ List.mem_cons_self)⟩

/-- Only zero has a numeral that starts with a zero. -/
theorem exists_ofNat_eq_cons_of_pos {n : Nat} (positive : 0 < n) :
    ∃ c cs, ofNat n = c :: cs ∧ c ≠ '0' := by
  induction n using Nat.strongRecOn with
  | ind n ih =>
    rw [ofNat, Nat.toDigits_eq_if (by decide)]
    by_cases single : n < 10
    · rw [if_pos single]
      have other : ∀ n < 10, 0 < n → n.digitChar ≠ '0' := by decide
      exact ⟨_, _, rfl, other n single positive⟩
    · obtain ⟨c, cs, eq, other⟩ := ih (n / 10) (by omega) (by omega)
      rw [if_neg single, ← ofNat, eq]
      exact ⟨c, _, rfl, other⟩

theorem value_ofNat (n : Nat) : value (ofNat n) = n := Nat.ofDigitChars_ten_toDigits

theorem value_append (cs ds : List Char) :
    value (cs ++ ds) = Nat.ofDigitChars 10 ds (value cs) := by
  rw [value, Nat.ofDigitChars_append]
  rfl

theorem value_zeros_append (n : Nat) (cs : List Char) :
    value (List.replicate n '0' ++ cs) = value cs := by
  rw [value_append, value, Nat.ofDigitChars_replicate_zero]
  rfl

theorem value_append_zeros (n : Nat) (cs : List Char) :
    value (cs ++ List.replicate n '0') = value cs * 10 ^ n := by
  rw [value_append, Nat.ofDigitChars_replicate_zero, Nat.mul_comm]

theorem digits?_ofNat (n : Nat) : digits? (ofNat n) = some n := by
  rw [digits?, if_pos ⟨ofNat_ne_nil n, all_isDigit_ofNat n⟩, value_ofNat]

theorem ne_sign_of_isDigit (digit : isDigit c) : c ≠ '+' ∧ c ≠ '-' := by
  constructor <;> rintro rfl <;> exact absurd digit (by decide)

theorem natural?_ofNat (n : Nat) : natural? (ofNat n) = some n := by
  obtain ⟨c, cs, eq, digit⟩ := exists_ofNat_eq_cons n
  have read := digits?_ofNat n
  rw [eq] at read ⊢
  rw [natural?, read]
  rintro ds ⟨⟩
  exact (ne_sign_of_isDigit digit).1 rfl

theorem integer?_ofInt (n : Int) : integer? (ofInt n) = some n := by
  cases n with
  | ofNat n =>
    obtain ⟨c, cs, eq, digit⟩ := exists_ofNat_eq_cons n
    have read := natural?_ofNat n
    rw [ofInt]
    rw [eq] at read ⊢
    rw [integer?, read]
    · rfl
    · rintro ds ⟨⟩
      exact (ne_sign_of_isDigit digit).2 rfl
  | negSucc n =>
    rw [ofInt, integer?, digits?_ofNat]
    rfl

end Parcel.Decimal
