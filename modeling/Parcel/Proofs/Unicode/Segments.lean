import Parcel.Proofs.Hex

/-!
# UTF-8 in segments

A byte string that is put together from segments is UTF-8 when each of them is. The converse needs
something between the segments: the bytes of a character that takes more than one are all outside
of ASCII, so an ASCII byte belongs to no other character, and no character is divided between what
stands before it and what stands after it.

## Main results

* `Utf8.isValid_iff` — UTF-8 is what texts are encoded as
* `Utf8.isValid_append` — behind a text
* `Utf8.isValid_append_cons` — around an ASCII byte
-/

namespace Parcel.Utf8

variable {s t : Bytes} {b : UInt8} {c : Char}

/-- UTF-8 is what texts are encoded as: `isValid` holds of the encodings and of nothing else. -/
theorem isValid_iff : isValid s ↔ ∃ cs, s = encodeChars cs := by
  rw [isValid]
  constructor
  · intro valid
    cases read : decodeChars s with
    | error e =>
      rw [read] at valid
      cases valid
    | ok cs => exact ⟨cs, encodeChars_of_decodeFrom s read⟩
  · rintro ⟨cs, rfl⟩
    rw [decodeChars_encodeChars]
    rfl

theorem isValid_encodeChars (cs : List Char) : isValid (encodeChars cs) := isValid_iff.2 ⟨cs, rfl⟩

theorem isValid_encode (text : String) : isValid (encode text) := isValid_encodeChars _

theorem isValid_of_ascii (ascii : ∀ b ∈ s, b.toNat < 0x80) : isValid s :=
  isValid_iff.2 ⟨_, (encodeChars_ofNat ascii).symm⟩

/-- Bytes are UTF-8 exactly when they can be decoded, and then they are the encoding of the text. -/
theorem decode_eq_ok_iff {text : String} : decode s = .ok text ↔ s = encode text := by
  constructor
  · exact eq_encode_of_decode
  · rintro rfl
    exact decode_encode text

theorem exists_encode_iff : (∃ text, s = encode text) ↔ isValid s := by
  constructor
  · rintro ⟨text, rfl⟩
    exact isValid_encode text
  · intro valid
    obtain ⟨cs, rfl⟩ := isValid_iff.1 valid
    exact ⟨String.ofList cs, by rw [encode, String.toList_ofList]⟩

/-! ## Segments -/

/-- What stands behind a text is UTF-8 when the whole is. -/
theorem isValid_append (text : isValid s) : isValid (s ++ t) ↔ isValid t := by
  obtain ⟨ds, rfl⟩ := isValid_iff.1 text
  constructor
  · intro whole
    obtain ⟨cs, eq⟩ := isValid_iff.1 whole
    obtain ⟨es, -, rfl⟩ := exists_of_encodeChars_eq_append eq.symm
    exact isValid_encodeChars es
  · intro rest
    obtain ⟨es, rfl⟩ := isValid_iff.1 rest
    rw [← encodeChars_append]
    exact isValid_encodeChars _

/-- The bytes of a character beyond ASCII are beyond ASCII as well. -/
theorem le_of_mem_encodeChar (wide : 0x80 ≤ c.toNat) (mem : b ∈ String.utf8EncodeChar c) :
    0x80 ≤ b.toNat := by
  have valid : c.val.toNat < 0xD800 ∨ 0xDFFF < c.val.toNat ∧ c.val.toNat < 0x110000 := c.valid
  change 0x80 ≤ c.val.toNat at wide
  unfold String.utf8EncodeChar at mem
  generalize c.val.toNat = v at valid wide mem
  dsimp only at mem
  -- one case for each number of bytes, of which a single one is excluded
  split at mem
  · omega
  split at mem
  · simp only [List.mem_cons, List.not_mem_nil, or_false] at mem
    rcases mem with rfl | rfl
    all_goals rw [toNat_ofNat_byte] <;> omega
  split at mem
  · simp only [List.mem_cons, List.not_mem_nil, or_false] at mem
    rcases mem with rfl | rfl | rfl
    all_goals rw [toNat_ofNat_byte] <;> omega
  · simp only [List.mem_cons, List.not_mem_nil, or_false] at mem
    rcases mem with rfl | rfl | rfl | rfl
    all_goals rw [toNat_ofNat_byte] <;> omega

/-- A character with an ASCII byte has no other byte. -/
theorem encodeChar_eq_of_mem (ascii : b.toNat < 0x80) (mem : b ∈ String.utf8EncodeChar c) :
    String.utf8EncodeChar c = [b] := by
  have single : c.toNat < 0x80 := Nat.lt_of_not_le fun wide =>
    absurd (le_of_mem_encodeChar wide mem) (Nat.not_le.2 ascii)
  rw [encodeChar_of_lt single] at mem ⊢
  rw [List.mem_singleton.1 mem]

theorem isValid_encodeChar (c : Char) : isValid (String.utf8EncodeChar c) :=
  isValid_iff.2 ⟨[c], (List.append_nil _).symm⟩

/-- No character is divided by an ASCII byte, so what stands in front of `b` is text. -/
theorem isValid_of_encodeChars_eq (ascii : b.toNat < 0x80) {cs : List Char}
    (whole : encodeChars cs = s ++ b :: t) : isValid s := by
  -- the characters are taken off one by one until the byte is in the next one
  induction cs generalizing s with
  | nil => simp at whole
  | cons c cs ih =>
    rw [encodeChars_cons, List.append_eq_append_iff] at whole
    rcases whole with ⟨rest, rfl, later⟩ | ⟨rest, char, later⟩
    · exact (isValid_append (isValid_encodeChar c)).2 (ih later)
    · -- the byte is behind the character, or it is the character
      cases rest with
      | nil =>
        rw [List.append_nil] at char
        rw [← char]
        exact isValid_encodeChar c
      | cons b' rest =>
        obtain ⟨rfl, -⟩ := List.cons.inj later
        have member : b ∈ String.utf8EncodeChar c := by simp [char]
        rw [encodeChar_eq_of_mem ascii member] at char
        cases s with
        | nil => exact isValid_encodeChars []
        | cons x s => simp at char

theorem isValid_cons (ascii : b.toNat < 0x80) : isValid (b :: t) ↔ isValid t :=
  isValid_append (s := [b]) (isValid_of_ascii (List.forall_mem_singleton.2 ascii))

/-- An ASCII byte `b` separates two segments. -/
theorem isValid_append_cons (ascii : b.toNat < 0x80) :
    isValid (s ++ b :: t) ↔ isValid s ∧ isValid t := by
  have behind (text : isValid s) : isValid (s ++ b :: t) ↔ isValid t :=
    (isValid_append text).trans (isValid_cons ascii)
  constructor
  · intro whole
    obtain ⟨cs, eq⟩ := isValid_iff.1 whole
    have text := isValid_of_encodeChars_eq ascii eq.symm
    exact ⟨text, (behind text).1 whole⟩
  · rintro ⟨text, rest⟩
    exact (behind text).2 rest

/-- A segment between ASCII bytes. -/
theorem isValid_enclosed {close : UInt8} (ascii : b.toNat < 0x80) (ascii' : close.toNat < 0x80) :
    isValid (b :: (s ++ [close])) ↔ isValid s := by
  rw [isValid_cons ascii, isValid_append_cons ascii']
  exact and_iff_left (isValid_encodeChars [])

end Parcel.Utf8
