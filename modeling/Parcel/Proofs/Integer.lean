import Parcel.Integer

/-!
# The narrowest integer

Formats that do not tell the kinds of integers apart bring an integer back as the first of `int`,
`long` and `ulong` that holds its number. One of the three always does.

## Main definitions

* `Integer.narrowed` — the integer of the narrowest kind with the same number

## Main results

* `Integer.range` — the numbers that integers of any kind can have
* `Integer.narrowest?_number` — the narrowest kind is found
-/

namespace Parcel.Integer

/-- Every integer is signed or unsigned of at most 64 bits. -/
theorem range (n : Integer) :
    -0x8000000000000000 ≤ n.number ∧ n.number < 0x10000000000000000 := by
  obtain ⟨kind, number, least, greatest⟩ := n
  change -0x8000000000000000 ≤ number ∧ number < 0x10000000000000000
  cases kind <;> simp [IntegerKind.width, Width.least, Width.greatest] at least greatest <;> omega

theorem holds_long_iff {n : Int} :
    IntegerKind.long.width.Holds n ↔ -0x8000000000000000 ≤ n ∧ n < 0x8000000000000000 := by
  simp [IntegerKind.width, Width.Holds, Width.least, Width.greatest]
  omega

theorem holds_ulong_iff {n : Int} :
    IntegerKind.ulong.width.Holds n ↔ 0 ≤ n ∧ n < 0x10000000000000000 := by
  simp [IntegerKind.width, Width.Holds, Width.least, Width.greatest]
  omega

/-- What is too great for a signed integer is held by `ulong`. -/
theorem holds_ulong_of_not_long {n : Integer} (large : ¬IntegerKind.long.width.Holds n.number) :
    IntegerKind.ulong.width.Holds n.number := by
  have range := n.range
  rw [holds_long_iff] at large
  rw [holds_ulong_iff]
  omega

/-- The integer with the same number of the narrowest kind among `int`, `long` and `ulong`. -/
def narrowed (n : Integer) : Integer :=
  if int : IntegerKind.int.width.Holds n.number then ⟨.int, n.number, int⟩
  else if long : IntegerKind.long.width.Holds n.number then ⟨.long, n.number, long⟩
  else ⟨.ulong, n.number, holds_ulong_of_not_long long⟩

theorem narrowest?_number (n : Integer) :
    narrowest? [.int, .long, .ulong] n.number = some n.narrowed := by
  rw [narrowest?, narrowed]
  by_cases int : IntegerKind.int.width.Holds n.number
  · simp [ofInt?, int]
  · by_cases long : IntegerKind.long.width.Holds n.number
    · simp [ofInt?, int, long]
    · have ulong := holds_ulong_of_not_long long
      simp [ofInt?, int, long, ulong]

/-- A negative number needs no unsigned kind: `narrowest?` finds a signed one. -/
theorem narrowest?_number_of_neg {n : Integer} (negative : n.number < 0) :
    narrowest? [.int, .long] n.number = some n.narrowed := by
  have range := n.range
  have long : IntegerKind.long.width.Holds n.number := by
    rw [holds_long_iff]
    omega
  rw [narrowest?, narrowed]
  by_cases int : IntegerKind.int.width.Holds n.number
  · simp [ofInt?, int]
  · simp [ofInt?, int, long]

end Parcel.Integer
