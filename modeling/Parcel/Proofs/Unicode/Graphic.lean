import Parcel.Proofs.Unicode.Utf8
import Parcel.Unicode.Blank

/-!
# Visible ASCII characters

Numerals, the words of literals and hexadecimal digits are made of visible ASCII characters. Each
of them is one byte, none is white space, so trimming leaves such text alone, as characters and as
bytes.

## Main definitions

* `Unicode.isGraphic` — the visible ASCII characters

## Main results

* `trim_append` — trimming takes away nothing of what is in between
* `Unicode.trimChars_of_isGraphic`, `Bytes.trimBlanks_of_isGraphic`
* `Utf8.encodeChars_eq_map`, `Utf8.encodeChars_ofNat` — one byte for every character
* `Utf8.mem_encodeChars_iff` — the bytes of visible text are the characters in it
-/

namespace Parcel

/-- A visible ASCII character. -/
def Unicode.isGraphic (c : Char) : Bool := 0x21 ≤ c.toNat && c.toNat ≤ 0x7E

open Unicode

variable {c : Char} {cs : List Char}

theorem Unicode.isGraphic_iff : isGraphic c ↔ 0x21 ≤ c.toNat ∧ c.toNat ≤ 0x7E := by
  simp [isGraphic]

/-- Trimming takes away what there is to `drop` at either end, and nothing of what is in between. -/
theorem trim_append {α : Type} {drop : α → Bool} {front xs back : List α}
    (before : ∀ x ∈ front, drop x = true) (kept : ∀ x ∈ xs, drop x = false)
    (after : ∀ x ∈ back, drop x = true) :
    (((front ++ (xs ++ back)).dropWhile drop).reverse.dropWhile drop).reverse = xs := by
  have dropWhile_eq {ys : List α} (kept : ∀ y ∈ ys, drop y = false) : ys.dropWhile drop = ys := by
    cases ys with
    | nil => rfl
    | cons y ys => exact List.dropWhile_cons_of_neg (by simp [kept y List.mem_cons_self])
  rw [List.dropWhile_append_of_pos before]
  cases xs with
  | nil =>
    have nothing : (back ++ []).dropWhile drop = [] := List.dropWhile_append_of_pos after
    rw [List.append_nil] at nothing
    rw [List.nil_append, nothing]
    rfl
  | cons x xs =>
    have start : (x :: xs ++ back).dropWhile drop = x :: xs ++ back :=
      List.dropWhile_cons_of_neg (by simp [kept x List.mem_cons_self])
    rw [start, List.reverse_append,
      List.dropWhile_append_of_pos fun y mem => after y (List.mem_reverse.1 mem),
      dropWhile_eq fun y mem => kept y (List.mem_reverse.1 mem), List.reverse_reverse]

/-- What has no element to `drop` at either end is left alone. -/
theorem trim_eq_self {α : Type} {drop : α → Bool} {xs : List α} (kept : ∀ x ∈ xs, drop x = false) :
    ((xs.dropWhile drop).reverse.dropWhile drop).reverse = xs := by
  have trimmed := trim_append (List.forall_mem_nil _) kept (List.forall_mem_nil _)
  rwa [List.nil_append, List.append_nil] at trimmed

theorem Unicode.isBlank_of_isGraphic (graphic : isGraphic c) : isBlank c = false := by
  have range := isGraphic_iff.1 graphic
  simp only [isBlank, Bool.or_eq_false_iff, Bool.and_eq_false_iff, decide_eq_false_iff_not,
    beq_eq_false_iff_ne]
  omega

theorem Unicode.trimChars_of_isGraphic (graphic : ∀ c ∈ cs, isGraphic c) : trimChars cs = cs :=
  trim_eq_self fun c mem => isBlank_of_isGraphic (graphic c mem)

/-- Trimming drops characters of `cs` and adds none. -/
theorem Unicode.trimChars_sublist (cs : List Char) : (trimChars cs).Sublist cs := by
  have front : (cs.dropWhile isBlank).Sublist cs := List.dropWhile_sublist isBlank
  have back : ((cs.dropWhile isBlank).reverse.dropWhile isBlank).Sublist
      (cs.dropWhile isBlank).reverse := List.dropWhile_sublist isBlank
  have both := back.reverse
  rw [List.reverse_reverse] at both
  exact both.trans front

namespace Utf8

theorem toNat_toUInt8 (single : c.toNat < 0x80) : c.toUInt8.toNat = c.toNat := by
  rw [Char.toUInt8, UInt32.toNat_toUInt8]
  exact Nat.mod_eq_of_lt (by change c.toNat < 256; omega)

theorem encodeChar_of_lt (single : c.toNat < 0x80) : String.utf8EncodeChar c = [c.toUInt8] := by
  rw [← Char.ofNat_toNat c]
  have byte := toNat_toUInt8 single
  rw [← byte, encodeChar_single (by omega), byte, Char.ofNat_toNat]

/-- One byte for every ASCII character. -/
theorem encodeChars_eq_map (single : ∀ c ∈ cs, c.toNat < 0x80) :
    encodeChars cs = cs.map Char.toUInt8 := by
  induction cs with
  | nil => rfl
  | cons c cs ih =>
    rw [encodeChars_cons, encodeChar_of_lt (single c List.mem_cons_self),
      ih fun d mem => single d (List.mem_cons_of_mem c mem)]
    rfl

/-- ASCII bytes are the encoding of the characters with their numbers. -/
theorem encodeChars_ofNat {s : Bytes} (single : ∀ b ∈ s, b.toNat < 0x80) :
    encodeChars (s.map fun b => Char.ofNat b.toNat) = s := by
  induction s with
  | nil => rfl
  | cons b s ih =>
    rw [List.map_cons, encodeChars_cons, encodeChar_single (single b List.mem_cons_self),
      ih fun b mem => single b (List.mem_cons_of_mem _ mem)]
    rfl

/-- The bytes of visible text are those of its characters. -/
theorem exists_of_mem_encodeChars (graphic : ∀ c ∈ cs, isGraphic c) {b : UInt8}
    (mem : b ∈ encodeChars cs) : ∃ c ∈ cs, b = c.toUInt8 ∧ b.toNat = c.toNat := by
  have single : ∀ c ∈ cs, c.toNat < 0x80 := fun c mem => by
    have := isGraphic_iff.1 (graphic c mem)
    omega
  rw [encodeChars_eq_map single] at mem
  obtain ⟨c, found, rfl⟩ := List.mem_map.1 mem
  exact ⟨c, found, rfl, toNat_toUInt8 (single c found)⟩

end Utf8

theorem Bytes.isBlank_of_isGraphic (graphic : ∀ c ∈ cs, isGraphic c) {b : UInt8}
    (mem : b ∈ Utf8.encodeChars cs) : Bytes.isBlank b = false := by
  obtain ⟨c, found, -, value⟩ := Utf8.exists_of_mem_encodeChars graphic mem
  have range := isGraphic_iff.1 (graphic c found)
  have ne {n : UInt8} (small : n.toNat < 0x21) : (b == n) = false := by
    rw [beq_eq_false_iff_ne]
    rintro rfl
    omega
  rw [Bytes.isBlank, ne (by decide), ne (by decide), ne (by decide), ne (by decide), ne (by decide)]
  rfl

theorem Bytes.trimBlanks_of_isGraphic (graphic : ∀ c ∈ cs, isGraphic c) :
    Bytes.trimBlanks (Utf8.encodeChars cs) = Utf8.encodeChars cs :=
  trim_eq_self fun _ mem => Bytes.isBlank_of_isGraphic graphic mem

end Parcel
