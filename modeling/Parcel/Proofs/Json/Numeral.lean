import Parcel.Json.Numeral
import Parcel.Proofs.Integer
import Parcel.Proofs.Json.Syntax
import Parcel.Proofs.Number.Display

/-!
# JSON numbers as text

Integers and finite doubles are written as JSON numbers: an optional minus sign, digits without a
leading zero, and behind them digits after a point or an exponent with a sign. An integer reads
back as one of the narrowest kind; a double is only said here to be a number.

## Main definitions

* `Json.IsNumeral` — characters that are the text of a number
* `Json.integerNumeral` — the number that an integer is written as

## Main results

* `Json.isNumeral_double?` — the text of a double is a number
* `Json.write_integerNumeral`, `Json.value?_integerNumeral` — integers read back
-/

namespace Parcel.Json

/-- Characters that are the text of a number. -/
def IsNumeral (cs : List Char) : Prop :=
  ∃ n : Numeral, n.Proper ∧ n.write = Utf8.encodeChars cs

/-- A run of at least one digit as characters. -/
structure IsRun (cs : List Char) : Prop where
  nonempty : cs ≠ []
  all : cs.all Decimal.isDigit

section Runs

variable {cs ds : List Char}

theorem toNat_lt_of_isDigit {c : Char} (digit : Decimal.isDigit c) : c.toNat < 0x80 := by
  have range := Decimal.isDigit_iff.1 digit
  omega

theorem IsRun.encodeChars_eq (run : IsRun cs) : Utf8.encodeChars cs = cs.map Char.toUInt8 :=
  Utf8.encodeChars_eq_map fun c mem => toNat_lt_of_isDigit (List.all_eq_true.1 run.all c mem)

/-- Digits are single bytes. -/
theorem IsRun.isDigits (run : IsRun cs) : IsDigits (Utf8.encodeChars cs) := by
  rw [run.encodeChars_eq]
  refine ⟨fun empty => run.nonempty (List.map_eq_nil_iff.1 empty), fun b mem => ?_⟩
  obtain ⟨c, found, rfl⟩ := List.mem_map.1 mem
  have digit := List.all_eq_true.1 run.all c found
  have range := Decimal.isDigit_iff.1 digit
  have value := Utf8.toNat_toUInt8 (toNat_lt_of_isDigit digit)
  simp only [isDigit, Bool.and_eq_true, decide_eq_true_eq, UInt8.le_iff_toNat_le, value]
  exact range

theorem IsRun.head?_encodeChars (run : IsRun cs) (leading : cs.head? = some '0' → cs = ['0'])
    (zero : (Utf8.encodeChars cs).head? = some 0x30) : Utf8.encodeChars cs = [0x30] := by
  rw [run.encodeChars_eq] at zero ⊢
  obtain ⟨c, rest, rfl⟩ := List.exists_cons_of_ne_nil run.nonempty
  have digit : Decimal.isDigit c := List.all_eq_true.1 run.all c List.mem_cons_self
  have byte : c.toUInt8 = 0x30 := Option.some.inj zero
  have value := Utf8.toNat_toUInt8 (toNat_lt_of_isDigit digit)
  rw [byte] at value
  have char : c = '0' := Char.toNat_inj.1 value.symm
  -- as characters the run starts with a zero as well, so there is nothing else in it
  rw [leading (congrArg some char)]
  rfl

theorem isRun_ofNat (n : Nat) : IsRun (Decimal.ofNat n) :=
  ⟨Decimal.ofNat_ne_nil n, Decimal.all_isDigit_ofNat n⟩

theorem IsRun.append (run : IsRun cs) (all : ds.all Decimal.isDigit) : IsRun (cs ++ ds) :=
  ⟨by simp [run.nonempty], by rw [List.all_append, run.all, all]; rfl⟩

/-- Only zero is written with a zero in front. -/
theorem head?_ofNat {n : Nat} (zero : (Decimal.ofNat n).head? = some '0') :
    Decimal.ofNat n = ['0'] := by
  rcases Nat.eq_zero_or_pos n with rfl | positive
  · rfl
  · obtain ⟨c, cs, eq, other⟩ := Decimal.exists_ofNat_eq_cons_of_pos positive
    rw [eq] at zero
    exact absurd (Option.some.inj zero) other

end Runs

/-! ## Shapes -/

/-- A fraction as characters. -/
def fractionChars : Option (List Char) → List Char
  | none => []
  | some ds => '.' :: ds

/-- An exponent as characters, always with a sign. -/
def exponentChars : Option (Bool × List Char) → List Char
  | none => []
  | some (negative, ds) => 'e' :: (if negative then '-' else '+') :: ds

/-- Digits without a leading zero, with a fraction or an exponent or both behind them. -/
theorem isNumeral_of_isRun (negative : Bool) {ws : List Char} (fraction : Option (List Char))
    (exponent : Option (Bool × List Char)) (whole : IsRun ws)
    (leading : ws.head? = some '0' → ws = ['0']) (fractions : ∀ ds ∈ fraction, IsRun ds)
    (exponents : ∀ p ∈ exponent, IsRun p.2) :
    IsNumeral ((if negative then ['-'] else []) ++
      (ws ++ (fractionChars fraction ++ exponentChars exponent))) := by
  -- the same parts, each of them encoded
  refine ⟨⟨negative, Utf8.encodeChars ws, fraction.map Utf8.encodeChars,
    exponent.map fun p => (p.1, Utf8.encodeChars p.2)⟩, ⟨whole.isDigits, ?_, ?_, ?_⟩, ?_⟩
  · exact whole.head?_encodeChars leading
  · intro digits mem
    obtain ⟨ds, found, rfl⟩ := Option.map_eq_some_iff.1 mem
    exact (fractions ds found).isDigits
  · intro p mem
    obtain ⟨q, found, rfl⟩ := Option.map_eq_some_iff.1 mem
    exact (exponents q found).isDigits
  · have sign : Utf8.encodeChars (if negative then ['-'] else []) =
        if negative then [0x2D] else [] := by
      cases negative <;> rfl
    have point : Utf8.encodeChars (fractionChars fraction) =
        writeFraction (fraction.map Utf8.encodeChars) := by
      cases fraction <;> rfl
    have letter : Utf8.encodeChars (exponentChars exponent) =
        writeExponent (exponent.map fun p => (p.1, Utf8.encodeChars p.2)) := by
      cases exponent with
      | none => rfl
      | some p =>
        obtain ⟨negative, ds⟩ := p
        cases negative <;> rfl
    rw [Utf8.encodeChars_append, Utf8.encodeChars_append, Utf8.encodeChars_append, sign, point,
      letter]
    rfl

/-! ## Doubles -/

section Doubles

variable {ds : List Char}

theorem all_isDigit_zeros (n : Nat) : (List.replicate n '0').all Decimal.isDigit := by
  refine List.all_eq_true.2 fun c mem => ?_
  rw [List.eq_of_mem_replicate mem]
  rfl

theorem isRun_zero : IsRun ['0'] := ⟨by decide, by decide⟩

theorem head?_append_of_isRun (run : IsRun ds) (cs : List Char) : (ds ++ cs).head? = ds.head? := by
  obtain ⟨c, rest, rfl⟩ := List.exists_cons_of_ne_nil run.nonempty
  rfl

/-- Digits around a point are digits before and after it. -/
theorem exists_pointed_eq (run : IsRun ds) (leading : ds.head? ≠ some '0') (point : Int) :
    ∃ ws fs, Number.pointed ['.', '0'] ds point = ws ++ fractionChars (some fs) ∧ IsRun ws ∧
      (ws.head? = some '0' → ws = ['0']) ∧ IsRun fs := by
  unfold Number.pointed
  by_cases before : point ≤ 0
  · -- all digits are behind the point, after so many zeros
    rw [if_pos before]
    have fraction : IsRun (List.replicate (-point).toNat '0' ++ ds) :=
      ⟨by simp [run.nonempty], by rw [List.all_append, all_isDigit_zeros, run.all]; rfl⟩
    exact ⟨['0'], _, rfl, isRun_zero, fun _ => rfl, fraction⟩
  rw [if_neg before]
  by_cases behind : (ds.length : Int) ≤ point
  · -- all digits are in front of the point, before so many zeros
    rw [if_pos behind]
    refine ⟨_, ['0'], rfl, run.append (all_isDigit_zeros _), fun zero => ?_, isRun_zero⟩
    rw [head?_append_of_isRun run] at zero
    exact absurd zero leading
  · -- the point stands among the digits, so there are some on either side
    rw [if_neg behind]
    have split : IsRun (ds.take point.toNat) := by
      refine ⟨fun empty => ?_, List.all_eq_true.2 fun c mem => ?_⟩
      · rcases List.take_eq_nil_iff.1 empty with none | none
        · omega
        · exact run.nonempty none
      · exact List.all_eq_true.1 run.all c (List.mem_of_mem_take mem)
    have rest : IsRun (ds.drop point.toNat) := by
      refine ⟨fun empty => ?_, List.all_eq_true.2 fun c mem => ?_⟩
      · have := List.drop_eq_nil_iff.1 empty
        omega
      · exact List.all_eq_true.1 run.all c (List.mem_of_mem_drop mem)
    refine ⟨_, _, rfl, split, fun zero => ?_, rest⟩
    have same := head?_append_of_isRun split (ds.drop point.toNat)
    rw [List.take_append_drop] at same
    exact absurd (same.trans zero) leading

/-- One digit before the point, and an exponent. -/
theorem exists_scientific_eq (run : IsRun ds) (leading : ds.head? ≠ some '0') (exponent : Int) :
    ∃ w fraction, Number.scientific ds exponent = [w] ++ (fractionChars fraction ++
        exponentChars (some (exponent < 0, Decimal.ofNat exponent.natAbs))) ∧
      IsRun [w] ∧ w ≠ '0' ∧ ∀ fs ∈ fraction, IsRun fs := by
  obtain ⟨d, rest, rfl⟩ := List.exists_cons_of_ne_nil run.nonempty
  obtain ⟨first, all⟩ := Bool.and_eq_true_iff.1 (List.all_cons ▸ run.all)
  have digit : IsRun [d] := ⟨by simp, by simp [first]⟩
  have other : d ≠ '0' := fun zero => leading (congrArg some zero)
  -- `ofInt` writes a minus sign itself; a plus sign is put in front
  have sign : 'e' :: (if exponent < 0 then [] else ['+']) ++ Decimal.ofInt exponent =
      exponentChars (some (exponent < 0, Decimal.ofNat exponent.natAbs)) := by
    cases exponent with
    | ofNat n => rfl
    | negSucc n =>
      have negative := Int.negSucc_lt_zero n
      simp only [exponentChars, if_pos negative, decide_eq_true negative]
      rfl
  cases rest with
  | nil =>
    refine ⟨d, none, ?_, digit, other, fun _ mem => by cases mem⟩
    rw [← sign]
    rfl
  | cons e rest =>
    refine ⟨d, some (e :: rest), ?_, digit, other, ?_⟩
    · rw [← sign]
      simp [Number.scientific, fractionChars]
    · rintro fs ⟨⟩
      exact ⟨by simp, all⟩

/-- The shortest digits of a positive number are not zero. -/
theorem coefficient_pos {m : Nat} {e : Int} (canonical : Binary.double.Canonical m e)
    (tie : Shortest.Tie) : 0 < (Shortest.ofFinite Binary.double tie m e).coefficient := by
  have rounds := Shortest.rounds_ofFinite (e := e) Binary.Format.ordinary_double.narrow
    canonical.positive canonical.lt_pow tie
  have positive := rounds.pos canonical.positive
  rcases Nat.eq_zero_or_pos (Shortest.ofFinite Binary.double tie m e).coefficient with zero | pos
  · rw [Shortest.Decimal.toRat, zero] at positive
    simp at positive
  · exact pos

end Doubles

/-- Finite doubles are written as numbers, in either `layout`. -/
theorem isNumeral_write {m : Nat} {e : Int} (negative : Bool)
    (canonical : m = 0 ∨ Binary.double.Canonical m e) :
    IsNumeral (layout.write Binary.double negative m e) := by
  unfold Number.Layout.write
  by_cases zero : m = 0
  · rw [if_pos zero]
    exact isNumeral_of_isRun negative (some ['0']) none isRun_zero (fun _ => rfl)
      (fun _ mem => Option.some.inj mem ▸ isRun_zero) (fun _ mem => by cases mem)
  · rw [if_neg zero]
    have positive := coefficient_pos (canonical.resolve_left zero) layout.tie
    generalize Shortest.ofFinite Binary.double layout.tie m e = d at positive
    have run := isRun_ofNat d.coefficient
    have leading : (Decimal.ofNat d.coefficient).head? ≠ some '0' := by
      obtain ⟨c, cs, eq, other⟩ := Decimal.exists_ofNat_eq_cons_of_pos positive
      rw [eq]
      exact fun same => other (Option.some.inj same)
    have range : layout.positional = some (-5, 16) := rfl
    rw [range]
    generalize written : (if negative then ['-'] else []) = sign
    dsimp only
    split
    · -- in positional notation there is always a fraction
      obtain ⟨ws, fs, eq, whole, noZero, fraction⟩ :=
        exists_pointed_eq run leading (d.exponent + (Decimal.ofNat d.coefficient).length)
      have numeral := isNumeral_of_isRun negative (some fs) none whole noZero
        (fun _ mem => Option.some.inj mem ▸ fraction) (fun _ mem => by cases mem)
      rw [exponentChars, List.append_nil, ← eq, written] at numeral
      exact numeral
    · -- in scientific notation there is always an exponent, but a single digit has no fraction
      obtain ⟨w, fraction, eq, digit, other, fractions⟩ :=
        exists_scientific_eq run leading (d.exponent + (Decimal.ofNat d.coefficient).length - 1)
      rw [eq, ← written]
      refine isNumeral_of_isRun negative fraction _ digit
        (fun zero => absurd (Option.some.inj zero) other) fractions fun p mem => ?_
      rw [← Option.some.inj mem]
      exact isRun_ofNat _

/-- The text of a finite double is a number. -/
theorem isNumeral_double? {bits : Nat} {cs : List Char} (finite : double? bits = some cs) :
    IsNumeral cs := by
  unfold double? at finite
  cases read : Binary.double.read bits with
  | finite negative m e =>
    obtain ⟨-, -, -, canonical⟩ := Binary.Format.finite_of_read read
    rw [read] at finite
    rw [← Option.some.inj finite]
    exact isNumeral_write negative (canonical.imp And.left id)
  | nan =>
    rw [read] at finite
    cases finite
  | infinite negative =>
    rw [read] at finite
    cases finite

/-! ## Integers -/

/-- The number that an integer is written as. -/
def integerNumeral (n : Int) : Numeral :=
  ⟨n < 0, Utf8.encodeChars (Decimal.ofNat n.natAbs), none, none⟩

theorem proper_integerNumeral (n : Int) : (integerNumeral n).Proper := by
  have run := isRun_ofNat n.natAbs
  exact ⟨run.isDigits, run.head?_encodeChars head?_ofNat, fun _ mem => (by cases mem),
    fun _ mem => (by cases mem)⟩

theorem write_integerNumeral (n : Int) :
    (integerNumeral n).write = Utf8.encodeChars (Decimal.ofInt n) := by
  cases n with
  | ofNat n => exact List.append_nil _
  | negSucc n =>
    have negative : (integerNumeral (.negSucc n)).negative = true :=
      decide_eq_true (Int.negSucc_lt_zero n)
    rw [Numeral.write, if_pos negative]
    exact congrArg (0x2D :: ·) (List.append_nil _)

/-- The digits of a number give the number. -/
theorem value_digits (n : Nat) :
    Decimal.value ((Utf8.encodeChars (Decimal.ofNat n)).map fun b => Char.ofNat b.toNat) = n := by
  have back : ((Utf8.encodeChars (Decimal.ofNat n)).map fun b => Char.ofNat b.toNat) =
      (Decimal.ofNat n).map id := by
    rw [(isRun_ofNat n).encodeChars_eq, List.map_map]
    refine List.map_congr_left fun c mem => ?_
    change Char.ofNat c.toUInt8.toNat = c
    rw [Utf8.toNat_toUInt8 (toNat_lt_of_isDigit (Decimal.isDigit_of_mem_ofNat mem)),
      Char.ofNat_toNat]
  rw [back, List.map_id, Decimal.value_ofNat]

theorem value?_integerNumeral (n : Integer) :
    (integerNumeral n.number).value? = some (.integer n.narrowed) := by
  have integer : (integerNumeral n.number).integer? = some n.narrowed := by
    unfold integerNumeral Numeral.integer?
    simp only [value_digits]
    -- a number with a minus sign is looked for among the signed kinds only
    by_cases negative : n.number < 0
    · have number : -(n.number.natAbs : Int) = n.number := by omega
      rw [decide_eq_true negative, if_pos rfl, if_neg (by omega), number,
        Integer.narrowest?_number_of_neg negative]
    · have number : (n.number.natAbs : Int) = n.number := by omega
      rw [decide_eq_false negative, if_neg (by decide), number]
      exact n.narrowest?_number
  rw [Numeral.value?, integer]

end Parcel.Json
