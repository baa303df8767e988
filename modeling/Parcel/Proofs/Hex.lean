import Parcel.Hex
import Parcel.Proofs.Unicode.Graphic

/-!
# Hexadecimal reads back

Every byte string is recovered from its digits, and the digits are text of visible characters.

## Main results

* `Hex.decode_encode` — decoding undoes encoding
* `Hex.length_of_decode` — digits are twice as many as the bytes that they stand for
* `Hex.decode_eq_ok_iff_of_toLower` — digits of either case stand for the same bytes
* `Hex.encode_eq_encodeChars` — the digits as text
* `Hex.range_of_mem_encode` — the bytes that are digits
-/

namespace Parcel.Hex

variable {b : UInt8} {s : Bytes}

theorem digitValue?_digit (below : b.toNat < 16) : digitValue? (digit b) = some b := by
  have all : ∀ n < 16, digitValue? (digit (UInt8.ofNat n)) = some (UInt8.ofNat n) := by decide
  simpa using all b.toNat below

/-- Digits are the ten numerals and the first six lower case letters. -/
theorem range_of_digit (below : b.toNat < 16) :
    0x30 ≤ (digit b).toNat ∧ (digit b).toNat ≤ 0x39 ∨
      0x61 ≤ (digit b).toNat ∧ (digit b).toNat ≤ 0x66 := by
  have all : ∀ n < 16, 0x30 ≤ (digit (UInt8.ofNat n)).toNat ∧ (digit (UInt8.ofNat n)).toNat ≤ 0x39 ∨
      0x61 ≤ (digit (UInt8.ofNat n)).toNat ∧ (digit (UInt8.ofNat n)).toNat ≤ 0x66 := by decide
  simpa using all b.toNat below

theorem high_lt (b : UInt8) : (b / 16).toNat < 16 := by
  have := b.toNat_lt
  rw [UInt8.toNat_div]
  change b.toNat / 16 < 16
  omega

theorem low_lt (b : UInt8) : (b % 16).toNat < 16 := by
  rw [UInt8.toNat_mod]
  exact Nat.mod_lt _ (by decide)

/-- A byte is made of its two digits. -/
theorem high_mul_add_low (b : UInt8) : b / 16 * 16 + b % 16 = b := by
  have := b.toNat_lt
  rw [← UInt8.toNat_inj, UInt8.toNat_add, UInt8.toNat_mul, UInt8.toNat_div, UInt8.toNat_mod]
  change (b.toNat / 16 * 16 % 256 + b.toNat % 16) % 256 = b.toNat
  omega

theorem length_encode (s : Bytes) : (encode s).length = 2 * s.length := by
  induction s with
  | nil => rfl
  | cons b s ih =>
    rw [encode, List.flatMap_cons, List.length_append, ← encode, ih]
    simp only [List.length_cons, List.length_nil]
    omega

theorem decodeFrom_encode (s : Bytes) (offset : Nat) (done : Bytes) :
    decodeFrom offset done (encode s) = .ok (done.reverse ++ s) := by
  induction s generalizing offset done with
  | nil => simp [encode, decodeFrom]
  | cons b s ih =>
    change decodeFrom offset done (digit (b / 16) :: digit (b % 16) :: encode s) = _
    rw [decodeFrom, digitValue?_digit (high_lt b), digitValue?_digit (low_lt b)]
    dsimp only
    rw [ih, high_mul_add_low]
    simp

/-- Decoding undoes encoding. -/
theorem decode_encode (s : Bytes) : decode (encode s) = .ok s := by
  rw [decode, length_encode, if_neg (by omega), decodeFrom_encode]
  rfl

/-- Reading goes on from the bytes that are `done`, and makes one byte of every two digits. -/
theorem length_of_decodeFrom {offset : Nat} {done x : Bytes}
    (decoded : decodeFrom offset done s = .ok x) : x.length = done.length + s.length / 2 := by
  fun_induction decodeFrom offset done s with
  | case1 offset done high low rest h l _ _ ih =>
    rw [ih decoded, List.length_cons, List.length_cons, List.length_cons]
    omega
  | case2 => cases decoded
  | case3 => cases decoded
  | case4 rest offset done single =>
    -- a single digit would be no byte, and `decode` has refused it before
    cases decoded
    have few : rest.length < 2 := by
      match rest, single with
      | [], _ => simp
      | [b], _ => simp
      | b :: b' :: rest, single => exact (single b b' rest rfl).elim
    rw [List.length_reverse]
    omega

theorem length_of_decode {x : Bytes} (decoded : decode s = .ok x) : s.length = 2 * x.length := by
  rw [decode] at decoded
  split at decoded
  · cases decoded
  · next even =>
    have halved := length_of_decodeFrom decoded
    rw [List.length_nil] at halved
    omega

/-! ## Digits of either case -/

theorem toNat_toLower (b : UInt8) : (Bytes.toLower b).toNat =
    if 0x41 ≤ b.toNat ∧ b.toNat ≤ 0x5A then b.toNat + 0x20 else b.toNat := by
  unfold Bytes.toLower
  simp only [UInt8.le_iff_toNat_le, UInt8.reduceToNat]
  split
  · rw [UInt8.toNat_add]
    change (b.toNat + 0x20) % 256 = b.toNat + 0x20
    omega
  · rfl

/-- A letter stands for the same number in either case. -/
theorem digitValue?_toLower (b : UInt8) : digitValue? (Bytes.toLower b) = digitValue? b := by
  have all : ∀ n < 256, digitValue? (Bytes.toLower (UInt8.ofNat n)) =
      digitValue? (UInt8.ofNat n) := by
    decide +kernel
  simpa using all b.toNat b.toNat_lt

theorem decodeFrom_toLower_eq_ok_iff (s : Bytes) (offset : Nat) (done x : Bytes) :
    decodeFrom offset done (s.map Bytes.toLower) = .ok x ↔ decodeFrom offset done s = .ok x := by
  -- the two readers take the same branch at every pair, but a fault would quote the byte it is at
  fun_induction decodeFrom offset done s with
  | case1 offset done high low rest h l first second ih =>
    rw [List.map_cons, List.map_cons, decodeFrom, digitValue?_toLower, digitValue?_toLower, first,
      second]
    exact ih
  | case2 offset done high low rest first =>
    rw [List.map_cons, List.map_cons, decodeFrom, digitValue?_toLower, digitValue?_toLower, first]
    simp
  | case3 offset done high low rest h first second =>
    rw [List.map_cons, List.map_cons, decodeFrom, digitValue?_toLower, digitValue?_toLower, first,
      second]
    simp
  | case4 s offset done short =>
    match s, short with
    | [], _ => rfl
    | [_], _ => rfl
    | a :: b :: rest, short => exact (short a b rest rfl).elim

/-- Digits of either case stand for the same bytes, so that `decode` takes them alike. -/
theorem decode_eq_ok_iff_of_toLower {t x : Bytes}
    (same : s.map Bytes.toLower = t.map Bytes.toLower) : decode s = .ok x ↔ decode t = .ok x := by
  have length_eq : s.length = t.length := by simpa using congrArg List.length same
  rw [decode, decode, length_eq]
  split
  · rfl
  · rw [← decodeFrom_toLower_eq_ok_iff s, same, decodeFrom_toLower_eq_ok_iff]

/-! ## Digits as text -/

theorem range_of_mem_encode (mem : b ∈ encode s) :
    0x30 ≤ b.toNat ∧ b.toNat ≤ 0x39 ∨ 0x61 ≤ b.toNat ∧ b.toNat ≤ 0x66 := by
  obtain ⟨x, -, mem⟩ := List.mem_flatMap.1 mem
  simp only [List.mem_cons, List.not_mem_nil, or_false] at mem
  obtain rfl | rfl := mem
  · exact range_of_digit (high_lt x)
  · exact range_of_digit (low_lt x)

/-- What becomes a digit in lower case is a digit, maybe an upper case one. -/
theorem range_of_toLower_mem_encode (mem : Bytes.toLower b ∈ encode s) :
    0x30 ≤ b.toNat ∧ b.toNat ≤ 0x39 ∨ 0x41 ≤ b.toNat ∧ b.toNat ≤ 0x46 ∨
      0x61 ≤ b.toNat ∧ b.toNat ≤ 0x66 := by
  have range := range_of_mem_encode mem
  rw [toNat_toLower] at range
  split at range <;> omega

/-- The digits are in lower case. -/
theorem map_toLower_encode (s : Bytes) : (encode s).map Bytes.toLower = encode s := by
  have same : ∀ b ∈ encode s, Bytes.toLower b = id b := fun b mem => by
    have range := range_of_mem_encode mem
    rw [← UInt8.toNat_inj, toNat_toLower, if_neg (by omega)]
    rfl
  rw [List.map_congr_left same, List.map_id]

/-- The digits of a byte string as characters. -/
def chars (s : Bytes) : List Char := (encode s).map fun b => Char.ofNat b.toNat

theorem toNat_of_mem_chars {c : Char} (mem : c ∈ chars s) :
    0x30 ≤ c.toNat ∧ c.toNat ≤ 0x39 ∨ 0x61 ≤ c.toNat ∧ c.toNat ≤ 0x66 := by
  obtain ⟨b, found, rfl⟩ := List.mem_map.1 mem
  have range := range_of_mem_encode found
  rw [Utf8.toNat_ofNat (.inl (by omega))]
  exact range

theorem isGraphic_of_mem_chars {c : Char} (mem : c ∈ chars s) : Unicode.isGraphic c := by
  have := toNat_of_mem_chars mem
  exact Unicode.isGraphic_iff.2 (by omega)

/-- The digits are the bytes of their text. -/
theorem encode_eq_encodeChars (s : Bytes) : encode s = Utf8.encodeChars (chars s) := by
  have single : ∀ b ∈ encode s, b.toNat < 0x80 := fun b mem => by
    have := range_of_mem_encode mem
    omega
  exact (Utf8.encodeChars_ofNat single).symm

end Parcel.Hex
