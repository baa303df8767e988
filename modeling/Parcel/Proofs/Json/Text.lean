import Parcel.Json.Syntax
import Parcel.Json.Text
import Parcel.Proofs.Hex

/-!
# JSON strings read back

The inside of a string is escaped byte by byte, and byte by byte it is read: first as a run that
ends at the closing quotation mark, then as what it stands for.

## Main results

* `Json.escapeByte_cases` — the three ways in which a byte is written
* `Json.string?_escape` — the inside of a string ends where it was closed
* `Json.unescape?_escape`, `Json.text?_escape` — unescaping undoes escaping
-/

namespace Parcel.Json

variable {b : UInt8}

/-- A byte is written after a backslash, by its number, or as it is. -/
theorem escapeByte_cases (b : UInt8) :
    (∃ e, escapeByte b = [0x5C, e] ∧ isShortEscape e ∧ shortEscape? e = some b) ∨
      (b < 0x20 ∧
        escapeByte b = [0x5C, 0x75, 0x30, 0x30, Hex.digit (b / 16), Hex.digit (b % 16)]) ∨
      (escapeByte b = [b] ∧ b ≠ 0x22 ∧ b ≠ 0x5C ∧ ¬b < 0x20) := by
  unfold escapeByte
  by_cases marked : b = 0x22 ∨ b = 0x5C
  · left
    rw [if_pos marked]
    rcases marked with rfl | rfl
    · exact ⟨_, rfl, rfl, rfl⟩
    · exact ⟨_, rfl, rfl, rfl⟩
  rw [if_neg marked]
  by_cases backspace : b = 0x08
  · subst backspace
    exact .inl ⟨_, rfl, rfl, rfl⟩
  rw [if_neg backspace]
  by_cases feed : b = 0x0C
  · subst feed
    exact .inl ⟨_, rfl, rfl, rfl⟩
  rw [if_neg feed]
  by_cases line : b = 0x0A
  · subst line
    exact .inl ⟨_, rfl, rfl, rfl⟩
  rw [if_neg line]
  by_cases back : b = 0x0D
  · subst back
    exact .inl ⟨_, rfl, rfl, rfl⟩
  rw [if_neg back]
  by_cases tab : b = 0x09
  · subst tab
    exact .inl ⟨_, rfl, rfl, rfl⟩
  rw [if_neg tab]
  obtain ⟨quote, backslash⟩ := not_or.1 marked
  by_cases control : b < 0x20
  · exact .inr (.inl ⟨control, by rw [if_pos control]⟩)
  · exact .inr (.inr ⟨by rw [if_neg control], quote, backslash, control⟩)

theorem isHexDigit_digit {b : UInt8} (below : b.toNat < 16) : isHexDigit (Hex.digit b) := by
  rw [isHexDigit, Hex.digitValue?_digit below]
  rfl

theorem stringFrom_escapeByte (b : UInt8) (done y : Bytes) :
    stringFrom done (escapeByte b ++ y) = stringFrom ((escapeByte b).reverse ++ done) y := by
  rcases escapeByte_cases b with ⟨e, eq, short, -⟩ | ⟨-, eq⟩ | ⟨eq, quote, backslash, control⟩
  · have other : e ≠ 0x75 := by
      rintro rfl
      cases short
    rw [eq]
    change stringFrom done (0x5C :: e :: y) = _
    -- a byte that is escaped by a letter is not the one that opens a number
    rw [stringFrom, if_pos short]
    · rfl
    · intro _ _ _ _ _ eq
      exact absurd eq other
  · have all : [0x30, 0x30, Hex.digit (b / 16), Hex.digit (b % 16)].all isHexDigit = true := by
      simp only [List.all_cons, isHexDigit_digit (Hex.high_lt b), isHexDigit_digit (Hex.low_lt b)]
      rfl
    rw [eq]
    change stringFrom done (0x5C :: 0x75 :: 0x30 :: 0x30 :: _ :: _ :: y) = _
    rw [stringFrom, if_pos all]
    rfl
  · rw [eq]
    change stringFrom done (b :: y) = _
    -- what stands for itself neither closes the string nor opens an escape
    rw [stringFrom, if_neg (not_or.2 ⟨control, backslash⟩)]
    · rfl
    · exact quote
    · intro _ _ _ _ _ eq
      exact absurd eq backslash
    · intro _ _ eq
      exact absurd eq backslash

theorem stringFrom_escape (s done y : Bytes) :
    stringFrom done (escape s ++ 0x22 :: y) = some (done.reverse ++ escape s, y) := by
  induction s generalizing done with
  | nil => simp [escape, stringFrom]
  | cons b s ih =>
    have eq : escape (b :: s) = escapeByte b ++ escape s := List.flatMap_cons
    rw [eq, List.append_assoc, stringFrom_escapeByte, ih]
    simp

/-- The inside of a string ends where it was closed. -/
theorem string?_escape (s y : Bytes) :
    string? (escape s ++ 0x22 :: y) = some (escape s, y) :=
  stringFrom_escape s [] y

/-- The number of a control character is written with four digits. -/
theorem fourDigits?_control (control : b < 0x20) :
    fourDigits? 0x30 0x30 (Hex.digit (b / 16)) (Hex.digit (b % 16)) = some b.toNat := by
  have zero : Hex.digitValue? 0x30 = some 0 := rfl
  have high : (b / 16).toNat = b.toNat / 16 := UInt8.toNat_div b 16
  have low : (b % 16).toNat = b.toNat % 16 := UInt8.toNat_mod b 16
  simp only [fourDigits?, zero, Hex.digitValue?_digit (Hex.high_lt b),
    Hex.digitValue?_digit (Hex.low_lt b), bind, Option.bind, pure, high, low]
  have small : b.toNat < 0x20 := UInt8.lt_iff_toNat_lt.1 control
  congr 1
  change ((0 * 16 + 0) * 16 + b.toNat / 16) * 16 + b.toNat % 16 = b.toNat
  omega

theorem unescapeFrom_escapeByte (b : UInt8) (done y : Bytes) :
    unescapeFrom done none (escapeByte b ++ y) = unescapeFrom (b :: done) none y := by
  rcases escapeByte_cases b with ⟨e, eq, short, value⟩ | ⟨control, eq⟩ |
    ⟨eq, quote, backslash, -⟩
  · have other : e ≠ 0x75 := by
      rintro rfl
      cases short
    rw [eq]
    change unescapeFrom done none (0x5C :: e :: y) = _
    rw [unescapeFrom, value]
    · rfl
    · intro _ _ _ _ _ eq
      exact absurd eq other
  · -- control characters are single bytes, so they are no surrogates
    have small : b.toNat < 0x20 := UInt8.lt_iff_toNat_lt.1 control
    rw [eq]
    change unescapeFrom done none (0x5C :: 0x75 :: 0x30 :: 0x30 :: _ :: _ :: y) = _
    rw [unescapeFrom, fourDigits?_control control]
    simp only [bind, Option.bind]
    rw [if_neg (by omega), if_neg (by omega), Utf8.encodeChar_single (by omega)]
    rfl
  · rw [eq]
    change unescapeFrom done none (b :: y) = _
    rw [unescapeFrom]
    · rfl
    · intro _ _ _ _ _ eq
      exact absurd eq backslash
    · intro _ _ eq
      exact absurd eq backslash

theorem unescapeFrom_escape (s done : Bytes) :
    unescapeFrom done none (escape s) = some (done.reverse ++ s) := by
  induction s generalizing done with
  | nil => simp [escape, unescapeFrom]
  | cons b s ih =>
    have eq : escape (b :: s) = escapeByte b ++ escape s := List.flatMap_cons
    rw [eq, unescapeFrom_escapeByte, ih]
    simp

/-- Unescaping undoes escaping. -/
theorem unescape?_escape (s : Bytes) : unescape? (escape s) = some s :=
  unescapeFrom_escape s []

/-- A text is what its bytes stand for behind `escape`. -/
theorem text?_escape (s : String) : text? (escape (Utf8.encode s)) = some s := by
  rw [text?, unescape?_escape, Option.bind_some, Utf8.decode_encode]
  rfl

theorem escapeByte_of_plain (visible : 0x20 ≤ b.toNat) (quote : b.toNat ≠ 0x22)
    (backslash : b.toNat ≠ 0x5C) : escapeByte b = [b] := by
  have ne (m : UInt8) (other : b.toNat ≠ m.toNat) : b ≠ m :=
    fun same => other (congrArg UInt8.toNat same)
  have past {m : UInt8} (control : m.toNat < 0x20) : b ≠ m := ne m (by omega)
  have graphic : ¬b < 0x20 := fun control =>
    absurd (UInt8.lt_iff_toNat_lt.1 control) (Nat.not_lt.2 visible)
  rw [escapeByte, if_neg (not_or.2 ⟨ne 0x22 quote, ne 0x5C backslash⟩),
    if_neg (past (by decide)), if_neg (past (by decide)), if_neg (past (by decide)),
    if_neg (past (by decide)), if_neg (past (by decide)), if_neg graphic]

/-- Bytes that stand for themselves are left alone. -/
theorem escape_of_plain {s : Bytes} (plain : ∀ b ∈ s, escapeByte b = [b]) : escape s = s := by
  induction s with
  | nil => rfl
  | cons b s ih =>
    obtain ⟨first, plain⟩ := List.forall_mem_cons.1 plain
    rw [escape, List.flatMap_cons, first, ← escape, ih plain]
    rfl

/-- Hexadecimal digits stand for themselves. -/
theorem escape_encode (s : Bytes) : escape (Hex.encode s) = Hex.encode s := by
  -- digits and letters are past the control characters, and no marks
  refine escape_of_plain fun b mem => ?_
  have range := Hex.range_of_mem_encode mem
  exact escapeByte_of_plain (by omega) (by omega) (by omega)

/-- A string of hexadecimal digits in quotation marks. -/
theorem quote_text (s : Bytes) : quote (Hex.text s) = 0x22 :: (Hex.encode s ++ [0x22]) := by
  have bytes : Utf8.encode (Hex.text s) = Hex.encode s := by
    rw [Utf8.encode, Hex.text, String.toList_ofList]
    exact (Hex.encode_eq_encodeChars s).symm
  rw [quote, bytes, escape_encode]

end Parcel.Json
