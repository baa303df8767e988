import Parcel.Unicode.CharSet
import Parcel.Unicode.Utf8

/-!
# Byte paths

The encodings of the characters of a set, as few paths of byte ranges: a path stands for all byte
strings that take one byte of each range. A span is cut until all its characters have encodings of
one length and the bytes after the first one that varies take all values.

## Main definitions

* `Parcel.ByteRange`, `Parcel.BytePath`
* `CharSet.paths`
-/

namespace Parcel

/-- The bytes `first`, …, `last`. -/
structure ByteRange where
  /-- Least byte. -/
  first : UInt8
  /-- Greatest byte. -/
  last : UInt8
  deriving DecidableEq, Inhabited

/-- Byte ranges, one for each byte of an encoding. -/
abbrev BytePath := List ByteRange

namespace Span

/-- The span in two after the code point `n`, if that is inside it. -/
def cutAfter (n : Nat) (s : Span) : List Span :=
  if s.first ≤ n ∧ n < s.last then [⟨s.first, n⟩, ⟨after n, s.last⟩] else [s]

/-- Cuts every span after a code point. -/
def cutAllAfter (spans : List Span) (n : Nat) : List Span := spans.flatMap (cutAfter n)

/-- Spans without surrogates whose characters have encodings of one length. -/
def sameLength (s : Span) : List Span := [0xD7FF, 0x7F, 0x7FF, 0xFFFF].foldl cutAllAfter [s]

/-- Cuts off what lies in the first and in the last block if these are not whole, where a span
reaches beyond one block. -/
def aligned (block : Nat) (s : Span) : List Span :=
  if s.first / block = s.last / block then [s]
  else
    let first := if s.first % block = 0 then s.first else (s.first / block + 1) * block
    let stop := if s.last % block = block - 1 then s.last + 1 else s.last / block * block
    (if s.first < first then [⟨s.first, first - 1⟩] else []) ++
      (if first < stop then [⟨first, stop - 1⟩] else []) ++
      (if stop ≤ s.last then [⟨stop, s.last⟩] else [])

/-- Cuts spans at the blocks of some sizes, which are those of one, two and three trailing bytes.
ASCII has no trailing bytes. -/
def alignedAll (s : Span) : List Span :=
  if s.last < 0x80 then [s]
  else [0x40, 0x1000, 0x40000].foldl (fun spans block => spans.flatMap (aligned block)) [s]

/-- The path from the encoding of the first character to that of the last one. -/
def path (s : Span) : BytePath :=
  List.zipWith ByteRange.mk (String.utf8EncodeChar (Char.ofNat s.first))
    (String.utf8EncodeChar (Char.ofNat s.last))

/-- The paths of the characters of a span, in ascending order. -/
def paths (s : Span) : List BytePath := (s.sameLength.flatMap alignedAll).map path

end Span

/-- The paths of the characters of a set, in ascending order. -/
def CharSet.paths (s : CharSet) : List BytePath := s.spans.flatMap Span.paths

/-- Paths that begin alike, one after the other, are taken together. -/
def BytePath.groups : List BytePath → List (ByteRange × List BytePath)
  | [] => []
  | [] :: rest => groups rest
  | (r :: path) :: rest =>
    match groups rest with
    | (s, paths) :: more =>
      if r = s then (r, path :: paths) :: more else (r, [path]) :: (s, paths) :: more
    | [] => [(r, [path])]

end Parcel
