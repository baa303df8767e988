import Parcel.Bytes

/-!
# MessagePack markers

Every MessagePack object starts with a marker that tells its type and either its value or how much
follows. Numbers and lengths after a marker are in big-endian order.

## Main definitions

* `MessagePack.Head` — what a marker and the number after it say
* `MessagePack.Head.write` — the shortest marker for a head
* `MessagePack.head?` — reading
-/

namespace Parcel.MessagePack

/-- The `width` lowest bytes of a number, the most significant first. -/
def bigEndian : Nat → Nat → Bytes
  | 0, _ => []
  | width + 1, n => (n / Nat.pow 256 width % 256).toUInt8 :: bigEndian width n

/-- The number that bytes stand for, the most significant first. -/
def fromBigEndian (s : Bytes) : Nat := s.foldl (fun n b => n * 256 + b.toNat) 0

/-- The number that bytes stand for in two's complement. -/
def fromSigned (s : Bytes) : Int := Int.bmod (fromBigEndian s) (Nat.pow 256 s.length)

/-- The first `n` bytes and the rest, when there are that many. -/
def split? (n : Nat) (s : Bytes) : Option (Bytes × Bytes) :=
  let taken := s.take n
  if taken.length = n then some (taken, s.drop n) else none

/-- What a marker says. -/
inductive Head where
  /-- Nothing. -/
  | nil
  /-- A truth value. -/
  | bool (b : Bool)
  /-- An integer `n`, and whether its marker is one for natural numbers. -/
  | integer (n : Int) (natural : Bool)
  /-- A single. -/
  | float (bits : UInt32)
  /-- A double. -/
  | double (bits : UInt64)
  /-- Text of `length` bytes. -/
  | text (length : Nat)
  /-- So many bytes as `length` says. -/
  | binary (length : Nat)
  /-- So many items as `length` says. -/
  | array (length : Nat)
  /-- So many pairs of a key and a value as `length` says. -/
  | map (length : Nat)
  /-- So many bytes of an extension type as `length` says, its own byte included. -/
  | extension (length : Nat)
  deriving DecidableEq, Inhabited

/-- The marker of a length: the `short` one when there is one, or else the first of `wide` that is
wide enough. -/
def writeLength (short : Option UInt8) (wide : List (Nat × UInt8)) (n : Nat) : Bytes :=
  match short with
  | some b => [b]
  | none => match wide.find? fun (width, _) => n < Nat.pow 256 width with
    | some (width, marker) => marker :: bigEndian width n
    | none => match wide.getLast? with
      | some (width, marker) => marker :: bigEndian width n
      | none => []

/-- The shortest marker of a count of bytes, items or pairs. Counts are written with 32 bits, and a
longer one loses the others. What is written of `length` is added to the byte `start` when it is
below `small`, or else follows a marker of `wide`. -/
def writeCount (small : Nat) (start : UInt8) (wide : List (Nat × UInt8)) (length : Nat) : Bytes :=
  let n := length % 0x100000000
  writeLength (if n < small then some (start + n.toUInt8) else none) wide n

/-- The shortest marker of an integer: one for natural numbers unless it is negative. -/
def writeInteger (n : Int) : Bytes :=
  if 0 ≤ n then
    writeLength (if n < 128 then some n.toNat.toUInt8 else none)
      [(1, 0xCC), (2, 0xCD), (4, 0xCE), (8, 0xCF)] n.toNat
  else if -32 ≤ n then [(256 + n).toNat.toUInt8]
  else if -128 ≤ n then 0xD0 :: bigEndian 1 (n + 256).toNat
  else if -32768 ≤ n then 0xD1 :: bigEndian 2 (n + 0x10000).toNat
  else if -2147483648 ≤ n then 0xD2 :: bigEndian 4 (n + 0x100000000).toNat
  else 0xD3 :: bigEndian 8 (n + 0x10000000000000000).toNat

/-- The shortest marker of a head. Extensions are never written. -/
def Head.write : Head → Bytes
  | .nil => [0xC0]
  | .bool b => [if b then 0xC3 else 0xC2]
  | .integer n _ => writeInteger n
  | .float bits => 0xCA :: bigEndian 4 bits.toNat
  | .double bits => 0xCB :: bigEndian 8 bits.toNat
  | .text n => writeCount 32 0xA0 [(1, 0xD9), (2, 0xDA), (4, 0xDB)] n
  | .binary n => writeCount 0 0 [(1, 0xC4), (2, 0xC5), (4, 0xC6)] n
  | .array n => writeCount 16 0x90 [(2, 0xDC), (4, 0xDD)] n
  | .map n => writeCount 16 0x80 [(2, 0xDE), (4, 0xDF)] n
  | .extension _ => []

/-- Reads a number of `width` bytes and makes a head of it. -/
def counted (width : Nat) (make : Nat → Head) (s : Bytes) : Option (Head × Bytes) :=
  (split? width s).map fun (digits, rest) => (make (fromBigEndian digits), rest)

/-- Reads a signed integer of `width` bytes. -/
def signed (width : Nat) (s : Bytes) : Option (Head × Bytes) :=
  (split? width s).map fun (digits, rest) => (.integer (fromSigned digits) false, rest)

/-- Reads a marker and the number after it. The marker `0xC1` starts nothing. -/
def head? : Bytes → Option (Head × Bytes)
  | [] => none
  | b :: s =>
    -- small numbers and lengths are part of the marker
    if b < 0x80 then some (.integer b.toNat true, s)
    else if b < 0x90 then some (.map (b.toNat - 0x80), s)
    else if b < 0xA0 then some (.array (b.toNat - 0x90), s)
    else if b < 0xC0 then some (.text (b.toNat - 0xA0), s)
    else if 0xE0 ≤ b then some (.integer (b.toNat - 256 : Int) false, s)
    else match b with
      | 0xC0 => some (.nil, s)
      | 0xC2 => some (.bool false, s)
      | 0xC3 => some (.bool true, s)
      | 0xC4 => counted 1 .binary s
      | 0xC5 => counted 2 .binary s
      | 0xC6 => counted 4 .binary s
      -- the length of an extension leaves out the byte for its type
      | 0xC7 => counted 1 (fun n => .extension (n + 1)) s
      | 0xC8 => counted 2 (fun n => .extension (n + 1)) s
      | 0xC9 => counted 4 (fun n => .extension (n + 1)) s
      | 0xCA => counted 4 (fun n => .float n.toUInt32) s
      | 0xCB => counted 8 (fun n => .double n.toUInt64) s
      | 0xCC => counted 1 (fun n => .integer n true) s
      | 0xCD => counted 2 (fun n => .integer n true) s
      | 0xCE => counted 4 (fun n => .integer n true) s
      | 0xCF => counted 8 (fun n => .integer n true) s
      | 0xD0 => signed 1 s
      | 0xD1 => signed 2 s
      | 0xD2 => signed 4 s
      | 0xD3 => signed 8 s
      -- extensions of 1, 2, 4, 8 and 16 bytes, and again the one for the type
      | 0xD4 => some (.extension 2, s)
      | 0xD5 => some (.extension 3, s)
      | 0xD6 => some (.extension 5, s)
      | 0xD7 => some (.extension 9, s)
      | 0xD8 => some (.extension 17, s)
      | 0xD9 => counted 1 .text s
      | 0xDA => counted 2 .text s
      | 0xDB => counted 4 .text s
      | 0xDC => counted 2 .array s
      | 0xDD => counted 4 .array s
      | 0xDE => counted 2 .map s
      | 0xDF => counted 4 .map s
      | _ => none

end Parcel.MessagePack
