import Mathlib.Algebra.Group.Nat.Defs
import Mathlib.Tactic.Ring
import Parcel.MessagePack.Marker
import Parcel.Proofs.Integer

/-!
# Markers read back

The marker of a head tells the head, whatever follows it. Lengths have to be below `2 ^ 32` for
this and integers need 64 bits; whether an integer comes back from a marker for natural numbers
depends on its sign alone.

A marker is either one byte for a small number, or a byte that says how wide the number after it
is. The widths of a family of markers are tried in order, so it is enough that each of them reads
back and that the last one is wide enough.

## Main results

* `MessagePack.fromBigEndian_bigEndian` — the lowest bytes of a number
* `MessagePack.head?_writeLength` — a family of markers
* `MessagePack.head?_text`, `head?_binary`, `head?_array`, `head?_map`, `head?_integer` — lengths
  and integers
-/

namespace Parcel.MessagePack

variable {n : Nat} {y : Bytes}

/-! ## Numbers of a fixed width -/

@[simp] theorem length_bigEndian (width n : Nat) : (bigEndian width n).length = width := by
  induction width with
  | zero => rfl
  | succ width ih => rw [bigEndian, List.length_cons, ih]

theorem toNat_toUInt8 {n : Nat} (small : n < 256) : n.toUInt8.toNat = n := by
  rw [Nat.toUInt8, UInt8.toNat_ofNat']
  exact Nat.mod_eq_of_lt small

theorem foldl_bigEndian (width n start : Nat) :
    (bigEndian width n).foldl (fun n b => n * 256 + b.toNat) start =
      start * 256 ^ width + n % 256 ^ width := by
  induction width generalizing start with
  | zero => simp [bigEndian, Nat.mod_one]
  | succ width ih =>
    -- the first byte is the highest digit, and the others make up the rest of the number
    have digit : (n / Nat.pow 256 width % 256).toUInt8.toNat = n / 256 ^ width % 256 :=
      toNat_toUInt8 (Nat.mod_lt _ (by decide))
    rw [bigEndian, List.foldl_cons, ih, digit, Nat.mod_pow_succ, pow_succ]
    ring

/-- The `width` lowest bytes of a number give the number up to a multiple of `256 ^ width`. -/
theorem fromBigEndian_bigEndian (width n : Nat) :
    fromBigEndian (bigEndian width n) = n % 256 ^ width := by
  rw [fromBigEndian, foldl_bigEndian, Nat.zero_mul, Nat.zero_add]

theorem split?_append (x y : Bytes) : split? x.length (x ++ y) = some (x, y) := by
  simp [split?]

theorem eq_of_split? {s x rest : Bytes} (read : split? n s = some (x, rest)) :
    x.length = n ∧ s = x ++ rest := by
  rw [split?] at read
  split at read
  · next long =>
    cases read
    exact ⟨long, (List.take_append_drop n s).symm⟩
  · cases read

theorem split?_bigEndian (width n : Nat) (y : Bytes) :
    split? width (bigEndian width n ++ y) = some (bigEndian width n, y) := by
  have split := split?_append (bigEndian width n) y
  rwa [length_bigEndian] at split

theorem counted_bigEndian {width : Nat} (make : Nat → Head) (fits : n < 256 ^ width) (y : Bytes) :
    counted width make (bigEndian width n ++ y) = some (make n, y) := by
  rw [counted, split?_bigEndian, Option.map_some]
  change some (make (fromBigEndian (bigEndian width n)), y) = _
  rw [fromBigEndian_bigEndian, Nat.mod_eq_of_lt fits]

/-- A negative number is written as its complement. -/
theorem signed_bigEndian (width : Nat) {i : Int} (least : -(256 ^ width : Nat) ≤ 2 * i)
    (negative : i < 0) (y : Bytes) :
    signed width (bigEndian width (i + (256 ^ width : Nat)).toNat ++ y) =
      some (.integer i false, y) := by
  rw [signed, split?_bigEndian, Option.map_some]
  change some (Head.integer (fromSigned (bigEndian width _)) false, y) = _
  rw [fromSigned, fromBigEndian_bigEndian, length_bigEndian]
  change some (Head.integer (Int.bmod _ (256 ^ width)) false, y) = _
  -- the complement is at least half of the bound, which is what marks it as negative
  generalize 256 ^ width = bound at least ⊢
  have complement : (i + bound).toNat % bound = (i + bound).toNat :=
    Nat.mod_eq_of_lt (by omega)
  have cast : ((i + bound).toNat : Int) = i + bound := Int.toNat_of_nonneg (by omega)
  have signed_eq : Int.bmod (i + bound) bound = i := by
    rw [Int.add_bmod_right, Int.bmod_eq_of_le (by omega) (by omega)]
  rw [complement, cast, signed_eq]

/-! ## Families of markers -/

/-- A length `n` reads back from a family of markers when each marker of the family is read as a
number of its width, and one of them is wide enough. -/
theorem head?_writeLength {wide : List (Nat × UInt8)} (make : Nat → Head)
    (reads : ∀ p ∈ wide, ∀ s, head? (p.2 :: s) = counted p.1 make s)
    (fits : ∃ p ∈ wide, n < 256 ^ p.1) (y : Bytes) :
    head? (writeLength none wide n ++ y) = some (make n, y) := by
  -- the first marker that is wide enough is written
  have found : (wide.find? fun p => n < Nat.pow 256 p.1).isSome := by
    obtain ⟨p, mem, wide_enough⟩ := fits
    exact List.find?_isSome.2 ⟨p, mem, decide_eq_true wide_enough⟩
  obtain ⟨⟨width, marker⟩, first⟩ := Option.isSome_iff_exists.1 found
  have enough : n < 256 ^ width := by
    have passed := List.find?_some first
    exact of_decide_eq_true passed
  have written : writeLength none wide n = marker :: bigEndian width n := by
    rw [writeLength]
    split
    · next eq =>
      cases eq.symm.trans first
      rfl
    · next eq => cases eq.symm.trans first
  rw [written, List.cons_append, reads _ (List.mem_of_find?_eq_some first),
    counted_bigEndian make enough]

/-- A count reads back modulo `2 ^ 32`, from a byte of its own when that is below `small`, or else
from a family of markers that goes up to four bytes. -/
theorem head?_writeCount {small : Nat} {start : UInt8} {wide : List (Nat × UInt8)}
    (make : Nat → Head)
    (single : ∀ n < small, ∀ s, head? ((start + n.toUInt8) :: s) = some (make n, s))
    (reads : ∀ p ∈ wide, ∀ s, head? (p.2 :: s) = counted p.1 make s)
    (widest : ∃ marker, (4, marker) ∈ wide) (n : Nat) (y : Bytes) :
    head? (writeCount small start wide n ++ y) = some (make (n % 2 ^ 32), y) := by
  have short : n % 2 ^ 32 < 256 ^ 4 := Nat.mod_lt n (by decide)
  change head? (writeLength (if n % 2 ^ 32 < small then some (start + (n % 2 ^ 32).toUInt8)
    else none) wide (n % 2 ^ 32) ++ y) = _
  by_cases few : n % 2 ^ 32 < small
  · rw [if_pos few]
    exact single _ few y
  · obtain ⟨marker, mem⟩ := widest
    rw [if_neg few]
    exact head?_writeLength make reads ⟨_, mem, short⟩ y

/-! ## Markers that hold a number

Five ranges of markers are a number and what it is the number of in one byte. -/

section Single

variable {b : UInt8}

/-- A byte is not below the ranges under the one it is in. -/
theorem not_lt_marker {m : UInt8} (low : n ≤ b.toNat) (below : m.toNat ≤ n) : ¬b < m := by
  rw [UInt8.lt_iff_toNat_lt]
  omega

theorem head?_singleNatural (high : b.toNat < 0x80) :
    head? (b :: y) = some (.integer b.toNat true, y) := by
  unfold head?
  dsimp only
  rw [if_pos (UInt8.lt_iff_toNat_lt.2 high)]

theorem head?_singleMap (low : 0x80 ≤ b.toNat) (high : b.toNat < 0x90) :
    head? (b :: y) = some (.map (b.toNat - 0x80), y) := by
  unfold head?
  dsimp only
  rw [if_neg (not_lt_marker low (by decide)), if_pos (UInt8.lt_iff_toNat_lt.2 high)]

theorem head?_singleArray (low : 0x90 ≤ b.toNat) (high : b.toNat < 0xA0) :
    head? (b :: y) = some (.array (b.toNat - 0x90), y) := by
  unfold head?
  dsimp only
  rw [if_neg (not_lt_marker low (by decide)), if_neg (not_lt_marker low (by decide)),
    if_pos (UInt8.lt_iff_toNat_lt.2 high)]

theorem head?_singleText (low : 0xA0 ≤ b.toNat) (high : b.toNat < 0xC0) :
    head? (b :: y) = some (.text (b.toNat - 0xA0), y) := by
  unfold head?
  dsimp only
  rw [if_neg (not_lt_marker low (by decide)), if_neg (not_lt_marker low (by decide)),
    if_neg (not_lt_marker low (by decide)), if_pos (UInt8.lt_iff_toNat_lt.2 high)]

theorem head?_singleNegative (low : 0xE0 ≤ b.toNat) :
    head? (b :: y) = some (.integer (b.toNat - 256 : Int) false, y) := by
  have negative : (0xE0 : UInt8) ≤ b := UInt8.not_lt.1 (not_lt_marker low (by decide))
  unfold head?
  dsimp only
  rw [if_neg (not_lt_marker low (by decide)), if_neg (not_lt_marker low (by decide)),
    if_neg (not_lt_marker low (by decide)), if_neg (not_lt_marker low (by decide)),
    if_pos negative]

end Single

/-- A number added to the first marker of a range. -/
theorem toNat_marker {start : UInt8} (fits : start.toNat + n < 256) :
    (start + n.toUInt8).toNat = start.toNat + n := by
  rw [UInt8.toNat_add, toNat_toUInt8 (by omega), Nat.mod_eq_of_lt fits]

theorem head?_smallText (small : n < 32) (y : Bytes) :
    head? ((0xA0 + n.toUInt8) :: y) = some (.text n, y) := by
  have marker : ((0xA0 : UInt8) + n.toUInt8).toNat = 0xA0 + n :=
    toNat_marker (show 0xA0 + n < 256 by omega)
  rw [head?_singleText (by omega) (by omega), marker, Nat.add_sub_cancel_left]

theorem head?_smallArray (small : n < 16) (y : Bytes) :
    head? ((0x90 + n.toUInt8) :: y) = some (.array n, y) := by
  have marker : ((0x90 : UInt8) + n.toUInt8).toNat = 0x90 + n :=
    toNat_marker (show 0x90 + n < 256 by omega)
  rw [head?_singleArray (by omega) (by omega), marker, Nat.add_sub_cancel_left]

theorem head?_smallMap (small : n < 16) (y : Bytes) :
    head? ((0x80 + n.toUInt8) :: y) = some (.map n, y) := by
  have marker : ((0x80 : UInt8) + n.toUInt8).toNat = 0x80 + n :=
    toNat_marker (show 0x80 + n < 256 by omega)
  rw [head?_singleMap (by omega) (by omega), marker, Nat.add_sub_cancel_left]

theorem head?_smallNatural (small : n < 128) (y : Bytes) :
    head? (n.toUInt8 :: y) = some (.integer n true, y) := by
  have marker : n.toUInt8.toNat = n := toNat_toUInt8 (by omega)
  rw [head?_singleNatural (by omega), marker]

/-! ## Heads -/

section Count

variable (n : Nat) (y : Bytes)

theorem head?_text_mod : head? ((Head.text n).write ++ y) = some (.text (n % 2 ^ 32), y) := by
  refine head?_writeCount .text (fun _ => head?_smallText) (fun p mem s => ?_) ⟨0xDB, by simp⟩ n y
  simp only [List.mem_cons, List.not_mem_nil, or_false] at mem
  rcases mem with rfl | rfl | rfl <;> rfl

theorem head?_binary_mod : head? ((Head.binary n).write ++ y) = some (.binary (n % 2 ^ 32), y) := by
  rw [Head.write]
  refine head?_writeCount .binary (fun _ few => absurd few (Nat.not_lt_zero _)) (fun p mem s => ?_)
    ⟨0xC6, by simp⟩ n y
  simp only [List.mem_cons, List.not_mem_nil, or_false] at mem
  rcases mem with rfl | rfl | rfl <;> rfl

theorem head?_array_mod : head? ((Head.array n).write ++ y) = some (.array (n % 2 ^ 32), y) := by
  refine head?_writeCount .array (fun _ => head?_smallArray) (fun p mem s => ?_) ⟨0xDD, by simp⟩ n y
  simp only [List.mem_cons, List.not_mem_nil, or_false] at mem
  rcases mem with rfl | rfl <;> rfl

theorem head?_map_mod : head? ((Head.map n).write ++ y) = some (.map (n % 2 ^ 32), y) := by
  refine head?_writeCount .map (fun _ => head?_smallMap) (fun p mem s => ?_) ⟨0xDF, by simp⟩ n y
  simp only [List.mem_cons, List.not_mem_nil, or_false] at mem
  rcases mem with rfl | rfl <;> rfl

end Count

theorem head?_text (short : n < 2 ^ 32) (y : Bytes) :
    head? ((Head.text n).write ++ y) = some (.text n, y) := by
  rw [head?_text_mod, Nat.mod_eq_of_lt short]

theorem head?_binary (short : n < 2 ^ 32) (y : Bytes) :
    head? ((Head.binary n).write ++ y) = some (.binary n, y) := by
  rw [head?_binary_mod, Nat.mod_eq_of_lt short]

theorem head?_array (short : n < 2 ^ 32) (y : Bytes) :
    head? ((Head.array n).write ++ y) = some (.array n, y) := by
  rw [head?_array_mod, Nat.mod_eq_of_lt short]

theorem head?_map (short : n < 2 ^ 32) (y : Bytes) :
    head? ((Head.map n).write ++ y) = some (.map n, y) := by
  rw [head?_map_mod, Nat.mod_eq_of_lt short]

theorem head?_float (bits : UInt32) (y : Bytes) :
    head? ((Head.float bits).write ++ y) = some (.float bits, y) := by
  change counted 4 (fun n => .float n.toUInt32) (bigEndian 4 bits.toNat ++ y) = _
  rw [counted_bigEndian _ bits.toNat_lt]
  exact congrArg (fun bits => some (Head.float bits, y)) UInt32.ofNat_toNat

theorem head?_double (bits : UInt64) (y : Bytes) :
    head? ((Head.double bits).write ++ y) = some (.double bits, y) := by
  change counted 8 (fun n => .double n.toUInt64) (bigEndian 8 bits.toNat ++ y) = _
  rw [counted_bigEndian _ bits.toNat_lt]
  exact congrArg (fun bits => some (Head.double bits, y)) UInt64.ofNat_toNat

theorem head?_natural (range : n < 2 ^ 64) (y : Bytes) :
    head? ((Head.integer n true).write ++ y) = some (.integer n true, y) := by
  rw [Head.write, writeInteger, if_pos (Int.natCast_nonneg n), Int.toNat_natCast]
  by_cases small : n < 128
  · rw [if_pos (by omega)]
    exact head?_smallNatural small y
  · rw [if_neg (by omega)]
    refine head?_writeLength (fun n => .integer n true) (fun p mem s => ?_)
      ⟨(8, 0xCF), by simp, by simpa using range⟩ y
    simp only [List.mem_cons, List.not_mem_nil, or_false] at mem
    rcases mem with rfl | rfl | rfl | rfl <;> rfl

theorem head?_negative {i : Int} (negative : i < 0) (range : -(2 ^ 63) ≤ i) (y : Bytes) :
    head? ((Head.integer i true).write ++ y) = some (.integer i false, y) := by
  rw [Head.write, writeInteger, if_neg (by omega)]
  by_cases tiny : -32 ≤ i
  · -- the complement of a small number is a marker of its own
    have marker : (256 + i).toNat.toUInt8.toNat = (256 + i).toNat := toNat_toUInt8 (by omega)
    rw [if_pos tiny, List.cons_append, head?_singleNegative (by omega), marker]
    congr 3
    omega
  rw [if_neg tiny]
  by_cases one : -128 ≤ i
  · rw [if_pos one]
    exact signed_bigEndian 1 (by simp; omega) negative y
  rw [if_neg one]
  by_cases two : -32768 ≤ i
  · rw [if_pos two]
    exact signed_bigEndian 2 (by simp; omega) negative y
  rw [if_neg two]
  by_cases four : -2147483648 ≤ i
  · rw [if_pos four]
    exact signed_bigEndian 4 (by simp; omega) negative y
  rw [if_neg four]
  exact signed_bigEndian 8 (by simp; omega) negative y

/-- An integer reads back by `head?`, from a marker for natural numbers unless it is negative. -/
theorem head?_integer (i : Integer) (y : Bytes) :
    head? ((Head.integer i.number true).write ++ y) =
      some (.integer i.number (0 ≤ i.number), y) := by
  obtain ⟨least, greatest⟩ := i.range
  by_cases negative : i.number < 0
  · rw [head?_negative negative least, decide_eq_false (by omega)]
  · obtain ⟨n, eq⟩ := Int.eq_ofNat_of_zero_le (Int.not_lt.1 negative)
    rw [eq, head?_natural (by omega), decide_eq_true (Int.natCast_nonneg n)]

/-- What starts with a marker is not empty. -/
theorem length_pos_of_head? {s : Bytes} {p : Head × Bytes} (read : head? s = some p) :
    0 < s.length := by
  cases s with
  | nil => cases read
  | cons b s => exact Nat.succ_pos _

end Parcel.MessagePack
