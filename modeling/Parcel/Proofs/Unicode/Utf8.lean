import Parcel.Unicode.Utf8
import Mathlib.Tactic.SplitIfs

/-!
# UTF-8 both ways

Reading undoes writing, and whatever can be read was written: a byte string is the encoding of the
text that it decodes to, so two texts with the same bytes are the same text.

The machine that reads is followed through one character at a time. A leading byte fixes how many
bytes are owed and how far the second one may range; the narrowed ranges are what makes the code
point a valid one that is not written shorter.

## Main results

* `Utf8.decode_encode` — the encoding of a text decodes to the text
* `Utf8.eq_encode_of_decode` — bytes that decode to a text are its encoding
* `Utf8.encode_injective`
* `Utf8.exists_of_encodeChars_eq_append` — what follows a text in an encoding is an encoding as well
-/

namespace Parcel.Utf8

variable {index : Nat} {done : List Char} {rest : Bytes} {b : UInt8} {p : Pending}

/-! ## Leading bytes -/

theorem lead?_two (low : 0xC2 ≤ b.toNat) (high : b.toNat ≤ 0xDF) :
    lead? b = some ⟨b.toNat - 0xC0, 1, 1, 0x80, 0xBF⟩ := by
  rw [lead?, if_pos]
  exact ⟨UInt8.le_iff_toNat_le.2 low, UInt8.le_iff_toNat_le.2 high⟩

theorem lead?_three (low : 0xE0 ≤ b.toNat) (high : b.toNat ≤ 0xEF) :
    lead? b = some ⟨b.toNat - 0xE0, 1, 2, if b.toNat = 0xE0 then 0xA0 else 0x80,
      if b.toNat = 0xED then 0x9F else 0xBF⟩ := by
  unfold lead?
  simp only [UInt8.le_iff_toNat_le, ← UInt8.toNat_inj, UInt8.reduceToNat]
  split_ifs <;> first | omega | simp_all

theorem lead?_four (low : 0xF0 ≤ b.toNat) (high : b.toNat ≤ 0xF4) :
    lead? b = some ⟨b.toNat - 0xF0, 1, 3, if b.toNat = 0xF0 then 0x90 else 0x80,
      if b.toNat = 0xF4 then 0x8F else 0xBF⟩ := by
  unfold lead?
  simp only [UInt8.le_iff_toNat_le, ← UInt8.toNat_inj, UInt8.reduceToNat]
  split_ifs <;> first | omega | simp_all

theorem lead?_eq_none (h : b.toNat < 0xC2 ∨ 0xF4 < b.toNat) : lead? b = none := by
  unfold lead?
  simp only [UInt8.le_iff_toNat_le, ← UInt8.toNat_inj, UInt8.reduceToNat]
  split_ifs <;> first | omega | rfl

/-! ## Steps of the machine -/

theorem decodeFrom_single (h : b.toNat < 0x80) :
    decodeFrom index done none (b :: rest) =
      decodeFrom (index + 1) (Char.ofNat b.toNat :: done) none rest := by
  rw [decodeFrom, if_pos (UInt8.lt_iff_toNat_lt.2 h)]

theorem decodeFrom_lead (h : 0x80 ≤ b.toNat) (lead : lead? b = some p) :
    decodeFrom index done none (b :: rest) = decodeFrom index done (some p) rest := by
  rw [decodeFrom, if_neg (by simpa [UInt8.lt_iff_toNat_lt] using h), lead]

theorem decodeFrom_last (owed : p.owed = 1) (low : p.low.toNat ≤ b.toNat)
    (high : b.toNat ≤ p.high.toNat) :
    decodeFrom index done (some p) (b :: rest) =
      decodeFrom (index + p.read + 1) (Char.ofNat (p.code * 64 + (b.toNat - 0x80)) :: done) none
        rest := by
  rw [decodeFrom, if_pos ⟨UInt8.le_iff_toNat_le.2 low, UInt8.le_iff_toNat_le.2 high⟩]
  simp only [owed]

theorem decodeFrom_more {k : Nat} (owed : p.owed = k + 2) (low : p.low.toNat ≤ b.toNat)
    (high : b.toNat ≤ p.high.toNat) :
    decodeFrom index done (some p) (b :: rest) =
      decodeFrom index done
        (some ⟨p.code * 64 + (b.toNat - 0x80), p.read + 1, k + 1, 0x80, 0xBF⟩) rest := by
  rw [decodeFrom, if_pos ⟨UInt8.le_iff_toNat_le.2 low, UInt8.le_iff_toNat_le.2 high⟩]
  simp only [owed]

/-- Inside a character the machine only goes on with a byte in the range that `p` expects. -/
theorem exists_of_decodeFrom_pending {cs : List Char} {s : Bytes}
    (h : decodeFrom index done (some p) s = .ok cs) :
    ∃ b rest, s = b :: rest ∧ p.low.toNat ≤ b.toNat ∧ b.toNat ≤ p.high.toNat := by
  cases s with
  | nil => simp [decodeFrom] at h
  | cons b rest =>
    rw [decodeFrom] at h
    split at h
    · next range =>
      exact ⟨b, rest, rfl, UInt8.le_iff_toNat_le.1 range.1, UInt8.le_iff_toNat_le.1 range.2⟩
    · cases h

/-! ## Writing, then reading -/

theorem toNat_ofNat_byte {n : Nat} (h : n < 256) : (UInt8.ofNat n).toNat = n := by
  simp [Nat.mod_eq_of_lt h]

/-- The machine reads the encoding of a character as that character. -/
theorem decodeFrom_encodeChar (c : Char) :
    decodeFrom index done none (String.utf8EncodeChar c ++ rest) =
      decodeFrom (index + (String.utf8EncodeChar c).length) (c :: done) none rest := by
  have valid : c.val.toNat < 0xD800 ∨ 0xDFFF < c.val.toNat ∧ c.val.toNat < 0x110000 := c.valid
  have same {n : Nat} (h : n = c.val.toNat) : Char.ofNat n = c := by
    subst h
    exact c.ofNat_toNat
  unfold String.utf8EncodeChar
  generalize c.val.toNat = v at valid same
  -- every continuation byte lies in the range that the machine expects after a leading byte
  have tail (n : Nat) : (UInt8.ofNat (n % 64 + 128)).toNat = n % 64 + 128 :=
    toNat_ofNat_byte (by omega)
  have last := tail v
  have third := tail (v / 64)
  have second := tail (v / 4096)
  dsimp only
  split
  · rw [List.cons_append, decodeFrom_single (by rw [toNat_ofNat_byte] <;> omega),
      same (by rw [toNat_ofNat_byte]; omega)]
    rfl
  split
  · have lead : (UInt8.ofNat (v / 64 % 32 + 192)).toNat = v / 64 + 192 := by
      rw [toNat_ofNat_byte] <;> omega
    rw [List.cons_append, List.cons_append,
      decodeFrom_lead (by omega) (lead?_two (by omega) (by omega)),
      decodeFrom_last rfl (by change 0x80 ≤ _; omega) (by change _ ≤ 0xBF; omega), same]
    · rfl
    · dsimp only
      omega
  split
  · have lead : (UInt8.ofNat (v / 4096 % 16 + 224)).toNat = v / 4096 + 224 := by
      rw [toNat_ofNat_byte] <;> omega
    rw [List.cons_append, List.cons_append, List.cons_append,
      decodeFrom_lead (by omega) (lead?_three (by omega) (by omega)), decodeFrom_more rfl,
      decodeFrom_last rfl (by change 0x80 ≤ _; omega) (by change _ ≤ 0xBF; omega), same]
    · rfl
    · dsimp only
      omega
    · dsimp only
      split <;> simp only [UInt8.reduceToNat] <;> omega
    · dsimp only
      split <;> simp only [UInt8.reduceToNat] <;> omega
  · have lead : (UInt8.ofNat (v / 262144 % 8 + 240)).toNat = v / 262144 + 240 := by
      rw [toNat_ofNat_byte] <;> omega
    rw [List.cons_append, List.cons_append, List.cons_append, List.cons_append,
      decodeFrom_lead (by omega) (lead?_four (by omega) (by omega)), decodeFrom_more rfl,
      decodeFrom_more rfl (by change 0x80 ≤ _; omega) (by change _ ≤ 0xBF; omega),
      decodeFrom_last rfl (by change 0x80 ≤ _; omega) (by change _ ≤ 0xBF; omega), same]
    · rfl
    · dsimp only
      omega
    · dsimp only
      split <;> simp only [UInt8.reduceToNat] <;> omega
    · dsimp only
      split <;> simp only [UInt8.reduceToNat] <;> omega

@[simp] theorem encodeChars_nil : encodeChars [] = [] := rfl

@[simp] theorem encodeChars_cons (c : Char) (cs : List Char) :
    encodeChars (c :: cs) = String.utf8EncodeChar c ++ encodeChars cs := rfl

theorem encodeChars_append (cs ds : List Char) :
    encodeChars (cs ++ ds) = encodeChars cs ++ encodeChars ds := List.flatMap_append

theorem decodeFrom_encodeChars (cs : List Char) :
    decodeFrom index done none (encodeChars cs) = .ok (done.reverse ++ cs) := by
  induction cs generalizing index done with
  | nil => simp [decodeFrom]
  | cons c cs ih => rw [encodeChars_cons, decodeFrom_encodeChar, ih]; simp

theorem decodeChars_encodeChars (cs : List Char) : decodeChars (encodeChars cs) = .ok cs :=
  decodeFrom_encodeChars cs

theorem decode_encodeChars (cs : List Char) :
    decode (encodeChars cs) = .ok (String.ofList cs) := by
  rw [decode, decodeChars_encodeChars]
  rfl

/-- The encoding of a text decodes to the text. -/
theorem decode_encode (s : String) : decode (encode s) = .ok s := by
  rw [encode, decode_encodeChars, String.ofList_toList]

/-! ## Reading, then writing -/

theorem ofNat_eq_byte {n : Nat} (h : n = b.toNat) : UInt8.ofNat n = b := by simp [h]

theorem toNat_ofNat {n : Nat} (valid : n < 0xD800 ∨ 0xDFFF < n ∧ n < 0x110000) :
    (Char.ofNat n).toNat = n := by
  rw [Char.ofNat, dif_pos valid]
  rfl

theorem encodeChar_ofNat {n : Nat} (valid : n < 0xD800 ∨ 0xDFFF < n ∧ n < 0x110000) :
    String.utf8EncodeChar (Char.ofNat n) =
      if n ≤ 0x7F then [UInt8.ofNat n]
      else if n ≤ 0x7FF then [UInt8.ofNat (n / 64 + 192), UInt8.ofNat (n % 64 + 128)]
      else if n ≤ 0xFFFF then
        [UInt8.ofNat (n / 4096 + 224), UInt8.ofNat (n / 64 % 64 + 128), UInt8.ofNat (n % 64 + 128)]
      else [UInt8.ofNat (n / 262144 + 240), UInt8.ofNat (n / 4096 % 64 + 128),
        UInt8.ofNat (n / 64 % 64 + 128), UInt8.ofNat (n % 64 + 128)] := by
  have same : (Char.ofNat n).val.toNat = n := toNat_ofNat valid
  simp only [String.utf8EncodeChar, same]
  split_ifs
  · rfl
  · rw [Nat.mod_eq_of_lt (by omega)]
  · rw [Nat.mod_eq_of_lt (by omega : n / 4096 < 16)]
  · rw [Nat.mod_eq_of_lt (by omega : n / 262144 < 8)]

theorem encodeChar_single (single : b.toNat < 0x80) :
    String.utf8EncodeChar (Char.ofNat b.toNat) = [b] := by
  rw [encodeChar_ofNat (by omega), if_pos (by omega), ofNat_eq_byte rfl]

theorem encodeChar_two {b₂ : UInt8} (lead : 0xC2 ≤ b.toNat ∧ b.toNat ≤ 0xDF)
    (last : 0x80 ≤ b₂.toNat ∧ b₂.toNat ≤ 0xBF) :
    String.utf8EncodeChar (Char.ofNat ((b.toNat - 0xC0) * 64 + (b₂.toNat - 0x80))) = [b, b₂] := by
  rw [encodeChar_ofNat (by omega), if_neg (by omega), if_pos (by omega),
    ofNat_eq_byte (b := b) (by omega), ofNat_eq_byte (b := b₂) (by omega)]

theorem encodeChar_three {b₂ b₃ : UInt8} (lead : 0xE0 ≤ b.toNat ∧ b.toNat ≤ 0xEF)
    (low : (if b.toNat = 0xE0 then 0xA0 else 0x80) ≤ b₂.toNat)
    (high : b₂.toNat ≤ if b.toNat = 0xED then 0x9F else 0xBF)
    (last : 0x80 ≤ b₃.toNat ∧ b₃.toNat ≤ 0xBF) :
    String.utf8EncodeChar (Char.ofNat
      (((b.toNat - 0xE0) * 64 + (b₂.toNat - 0x80)) * 64 + (b₃.toNat - 0x80))) = [b, b₂, b₃] := by
  have range : 0x80 ≤ b₂.toNat ∧ b₂.toNat ≤ 0xBF ∧
      (b.toNat = 0xE0 → 0xA0 ≤ b₂.toNat) ∧ (b.toNat = 0xED → b₂.toNat ≤ 0x9F) := by
    split_ifs at low high <;> omega
  rw [encodeChar_ofNat (by omega), if_neg (by omega), if_neg (by omega), if_pos (by omega),
    ofNat_eq_byte (b := b) (by omega), ofNat_eq_byte (b := b₂) (by omega),
    ofNat_eq_byte (b := b₃) (by omega)]

theorem encodeChar_four {b₂ b₃ b₄ : UInt8} (lead : 0xF0 ≤ b.toNat ∧ b.toNat ≤ 0xF4)
    (low : (if b.toNat = 0xF0 then 0x90 else 0x80) ≤ b₂.toNat)
    (high : b₂.toNat ≤ if b.toNat = 0xF4 then 0x8F else 0xBF)
    (third : 0x80 ≤ b₃.toNat ∧ b₃.toNat ≤ 0xBF) (last : 0x80 ≤ b₄.toNat ∧ b₄.toNat ≤ 0xBF) :
    String.utf8EncodeChar (Char.ofNat
      ((((b.toNat - 0xF0) * 64 + (b₂.toNat - 0x80)) * 64 + (b₃.toNat - 0x80)) * 64 +
        (b₄.toNat - 0x80))) = [b, b₂, b₃, b₄] := by
  have range : 0x80 ≤ b₂.toNat ∧ b₂.toNat ≤ 0xBF ∧
      (b.toNat = 0xF0 → 0x90 ≤ b₂.toNat) ∧ (b.toNat = 0xF4 → b₂.toNat ≤ 0x8F) := by
    split_ifs at low high <;> omega
  rw [encodeChar_ofNat (by omega), if_neg (by omega), if_neg (by omega), if_neg (by omega),
    ofNat_eq_byte (b := b) (by omega), ofNat_eq_byte (b := b₂) (by omega),
    ofNat_eq_byte (b := b₃) (by omega), ofNat_eq_byte (b := b₄) (by omega)]

/-- What the machine has `done` before and still reads is what its result encodes to. -/
theorem encodeChars_of_decodeFrom {cs : List Char} (s : Bytes) {index : Nat} {done : List Char}
    (h : decodeFrom index done none s = .ok cs) :
    encodeChars done.reverse ++ s = encodeChars cs := by
  -- a character that was read moves from the front of the rest to the end of what is done
  have next {c : Char} {read rest : Bytes} (char : String.utf8EncodeChar c = read)
      (later : encodeChars (c :: done).reverse ++ rest = encodeChars cs) :
      encodeChars done.reverse ++ (read ++ rest) = encodeChars cs := by
    rw [← later, List.reverse_cons, encodeChars_append, encodeChars_cons, char]
    simp
  -- the recursion skips all bytes of a character at once, so it is on the length of the rest
  match s with
  | [] =>
    cases h
    simp
  | b :: rest =>
    by_cases single : b.toNat < 0x80
    · rw [decodeFrom_single single] at h
      exact next (encodeChar_single single) (encodeChars_of_decodeFrom rest h)
    by_cases two : 0xC2 ≤ b.toNat ∧ b.toNat ≤ 0xDF
    · rw [decodeFrom_lead (by omega) (lead?_two two.1 two.2)] at h
      obtain ⟨b₂, rest, rfl, low, high⟩ := exists_of_decodeFrom_pending h
      rw [decodeFrom_last rfl low high] at h
      exact next (encodeChar_two two ⟨low, high⟩) (encodeChars_of_decodeFrom rest h)
    by_cases three : 0xE0 ≤ b.toNat ∧ b.toNat ≤ 0xEF
    · rw [decodeFrom_lead (by omega) (lead?_three three.1 three.2)] at h
      obtain ⟨b₂, rest, rfl, low, high⟩ := exists_of_decodeFrom_pending h
      rw [decodeFrom_more rfl low high] at h
      obtain ⟨b₃, rest, rfl, low₃, high₃⟩ := exists_of_decodeFrom_pending h
      rw [decodeFrom_last rfl low₃ high₃] at h
      rw [apply_ite UInt8.toNat] at low high
      exact next (encodeChar_three three low high ⟨low₃, high₃⟩) (encodeChars_of_decodeFrom rest h)
    by_cases four : 0xF0 ≤ b.toNat ∧ b.toNat ≤ 0xF4
    · rw [decodeFrom_lead (by omega) (lead?_four four.1 four.2)] at h
      obtain ⟨b₂, rest, rfl, low, high⟩ := exists_of_decodeFrom_pending h
      rw [decodeFrom_more rfl low high] at h
      obtain ⟨b₃, rest, rfl, low₃, high₃⟩ := exists_of_decodeFrom_pending h
      rw [decodeFrom_more rfl low₃ high₃] at h
      obtain ⟨b₄, rest, rfl, low₄, high₄⟩ := exists_of_decodeFrom_pending h
      rw [decodeFrom_last rfl low₄ high₄] at h
      rw [apply_ite UInt8.toNat] at low high
      exact next (encodeChar_four four low high ⟨low₃, high₃⟩ ⟨low₄, high₄⟩)
        (encodeChars_of_decodeFrom rest h)
    · rw [decodeFrom, if_neg (by simpa [UInt8.lt_iff_toNat_lt] using single),
        lead?_eq_none (by omega)] at h
      cases h
termination_by s.length

/-- Bytes that decode to a text are its encoding: `decode` takes no other bytes. -/
theorem eq_encode_of_decode {s : Bytes} {t : String} (h : decode s = .ok t) : s = encode t := by
  rw [decode] at h
  cases read : decodeChars s with
  | error e =>
    rw [read] at h
    cases h
  | ok cs =>
    rw [read] at h
    cases h
    rw [encode, String.toList_ofList]
    exact encodeChars_of_decodeFrom s read

theorem encode_injective {s t : String} (h : encode s = encode t) : s = t := by
  have decoded := decode_encode s
  rw [h, decode_encode] at decoded
  exact (Except.ok.inj decoded).symm

/-! ## A part of a text -/

/-- What was `done` before is the beginning of the result. -/
theorem prefix_of_decodeFrom {cs : List Char} {inside : Option Pending} {s : Bytes}
    (read : decodeFrom index done inside s = .ok cs) : done.reverse <+: cs := by
  have grown {c : Char} {done : List Char} (more : (c :: done).reverse <+: cs) :
      done.reverse <+: cs := by
    rw [List.reverse_cons] at more
    exact (List.prefix_append _ _).trans more
  induction s generalizing index done inside with
  | nil =>
    cases inside with
    | none =>
      cases read
      exact List.prefix_rfl
    | some p => cases read
  | cons b rest ih =>
    cases inside with
    | none =>
      rw [decodeFrom] at read
      split at read
      · exact grown (ih read)
      · split at read
        · cases read
        · exact ih read
    | some p =>
      rw [decodeFrom] at read
      split at read
      · dsimp only at read
        split at read
        · exact grown (ih read)
        · exact grown (ih read)
        · exact ih read
      · cases read

theorem decodeFrom_encodeChars_append (cs : List Char) (s : Bytes) :
    ∃ index', decodeFrom index done none (encodeChars cs ++ s) =
      decodeFrom index' (cs.reverse ++ done) none s := by
  induction cs generalizing index done with
  | nil => exact ⟨index, rfl⟩
  | cons c cs ih =>
    rw [encodeChars_cons, List.append_assoc, decodeFrom_encodeChar, List.reverse_cons,
      List.append_assoc]
    exact ih

/-- What follows the text `ds` in an encoding encodes what follows it in the whole text. -/
theorem exists_of_encodeChars_eq_append {cs ds : List Char} {s : Bytes}
    (whole : encodeChars cs = encodeChars ds ++ s) : ∃ es, cs = ds ++ es ∧ s = encodeChars es := by
  have read := decodeChars_encodeChars cs
  obtain ⟨index, first⟩ := decodeFrom_encodeChars_append ds s
  rw [whole, decodeChars, first, List.append_nil] at read
  obtain ⟨es, rfl⟩ := prefix_of_decodeFrom read
  rw [List.reverse_reverse, encodeChars_append] at whole
  exact ⟨es, by rw [List.reverse_reverse], (List.append_cancel_left whole).symm⟩

end Parcel.Utf8
