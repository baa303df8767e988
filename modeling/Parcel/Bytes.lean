/-!
# Byte strings

Wire formats are defined on lists of bytes: a reader takes a list apart from the front and a
writer is a list built by appending. A `Slice` is a run of bytes together with the offset at
which it was found, so a reader can hand out a piece of its input without losing its place.

## Main definitions

* `Parcel.Bytes` — a byte string
* `Bytes.IsBlank`, `Bytes.skipBlanks`, `Bytes.trimBlanks` — ASCII whitespace
* `Bytes.offsetOfPair?` — where two given bytes first stand side by side
* `Parcel.Slice` — bytes with the offset of the first one
-/

namespace Parcel

/-- A byte string. -/
abbrev Bytes := List UInt8

namespace Bytes

/-- The byte of an ASCII character. -/
abbrev ofChar (c : Char) : UInt8 := c.toUInt8

/-- ASCII whitespace: space, tab, line feed, form feed and carriage return. -/
def isBlank (b : UInt8) : Bool :=
  b == 0x20 || b == 0x09 || b == 0x0A || b == 0x0C || b == 0x0D

/-- What remains after the leading ASCII whitespace. -/
def skipBlanks (s : Bytes) : Bytes := s.dropWhile isBlank

/-- The bytes without the ASCII whitespace at either end. -/
def trimBlanks (s : Bytes) : Bytes := ((skipBlanks s).reverse.dropWhile isBlank).reverse

/-- The offset, counted on from `i`, at which `first` is immediately followed by `second`. -/
def offsetOfPairFrom (first second : UInt8) (i : Nat) : Bytes → Option Nat
  | [] => none
  | b :: rest =>
    if b == first && rest.head? == some second then some i
    else offsetOfPairFrom first second (i + 1) rest

/-- The offset at which `first` is for the first time immediately followed by `second`. -/
def offsetOfPair? (first second : UInt8) (s : Bytes) : Option Nat :=
  offsetOfPairFrom first second 0 s

/-- The ASCII letter in lower case; every other byte unchanged. -/
def toLower (b : UInt8) : UInt8 := if 0x41 ≤ b ∧ b ≤ 0x5A then b + 0x20 else b

end Bytes

/-- A run of bytes and the offset at which it starts in the input it was cut from. -/
structure Slice where
  /-- Offset of the first byte. -/
  start : Nat
  /-- The bytes themselves. -/
  bytes : Bytes
  deriving DecidableEq, Inhabited

namespace Slice

/-- Number of bytes. -/
def length (s : Slice) : Nat := s.bytes.length

/-- Offset just past the last byte. -/
def stop (s : Slice) : Nat := s.start + s.bytes.length

/-- The slice without the ASCII whitespace at either end. -/
def trimBlanks (s : Slice) : Slice :=
  ⟨s.start + (s.bytes.length - (Bytes.skipBlanks s.bytes).length), Bytes.trimBlanks s.bytes⟩

end Slice

end Parcel
