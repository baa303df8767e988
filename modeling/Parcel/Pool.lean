import Parcel.Bytes
import Parcel.Memory

/-!
# Buffer pools

Encodings are written into buffers that come from a pool. A direct pool reserves every buffer anew.
A block pool keeps buffers that are handed back in size classes, each twice as large as the one
before, and hands the one that came last out again.

## Main definitions

* `Parcel.Buffer` — content and capacity
* `Parcel.Pool`, `Pool.acquire`, `Pool.release`
* `Parcel.Pool.Stats` — what a pool counts
-/

namespace Parcel

/-- Memory for bytes, with those it holds. -/
structure Buffer where
  /-- Number of bytes that fit. -/
  capacity : Nat
  /-- The bytes held. -/
  content : Bytes
  deriving DecidableEq, Inhabited

namespace Buffer

/-- A new buffer without content. -/
def reserve [Memory] (capacity : Nat) : Except Error Buffer :=
  (Memory.reserve capacity).map fun _ => ⟨capacity, []⟩

/-- The buffer with other `content`, grown where that does not fit. -/
def fill [Memory] (content : Bytes) (b : Buffer) : Buffer :=
  ⟨if content.length ≤ b.capacity then b.capacity else Memory.grown b.capacity content, content⟩

/-- The buffer without its content. -/
def clear (b : Buffer) : Buffer := { b with content := [] }

end Buffer

/-- The buffers that a block pool keeps, by size class, and its counters. -/
structure BlockPool where
  /-- The buffers of every class, the last one to come in front. -/
  classes : List (List Buffer)
  /-- How many buffers a class keeps at most. -/
  maxPerClass : Nat
  /-- Requests served from a kept buffer. -/
  hits : UInt64
  /-- Requests served by a new buffer. -/
  misses : UInt64

namespace BlockPool

/-- Number of size classes. -/
def classCount : Nat := 15

/-- The capacity that a class guarantees: 64 bytes for the first, a megabyte for the last. -/
def classSize (i : Nat) : Nat := 64 * Nat.pow 2 i

/-- A pool without buffers. -/
def new (maxPerClass : Nat) : BlockPool := ⟨List.replicate classCount [], maxPerClass, 0, 0⟩

/-- How many buffers a class keeps unless told otherwise. -/
def defaultMaxPerClass : Nat := 16

/-- The exponent of the capacity that the first class guarantees. -/
def minShift : Nat := 6

/-- The exponent of the capacity that the last class guarantees. -/
def maxShift : Nat := 20

/-- The first power of two that is no less than `n`, if a word of 64 bits holds it. -/
def nextPowerOfTwo? (n : Nat) : Option Nat :=
  let size := if n ≤ 1 then 1 else Nat.pow 2 ((n - 1).log2 + 1)
  if size < Nat.pow 2 64 then some size else none

/-- The class of a request: its capacity, or that of the first class when it is less, is rounded up
to a power of two, which must not be beyond the last class. -/
def classForRequest? (capacity : Nat) : Option Nat := do
  let size ← nextPowerOfTwo? (max capacity (Nat.pow 2 minShift))
  -- a power of two has as many zeros at the end as its exponent says
  let shift := size.log2
  if shift ≤ maxShift then some (shift - minShift) else none

/-- The class of a buffer that comes back: its capacity is rounded down to a power of two, and to
that of the last class when it is more. Less than the first class guarantees is in no class. -/
def classForBuffer? (capacity : Nat) : Option Nat :=
  if capacity < Nat.pow 2 minShift then none
  else some (min capacity.log2 maxShift - minShift)

/-- A buffer of at least the given `capacity` without content. -/
def acquire [Memory] (capacity : Nat) (p : BlockPool) : Except Error Buffer × BlockPool :=
  match classForRequest? capacity with
  | none => (Buffer.reserve capacity, { p with misses := p.misses + 1 })
  | some i =>
    match p.classes[i]? with
    | some (b :: rest) => (.ok b, { p with classes := p.classes.set i rest, hits := p.hits + 1 })
    | _ => (Buffer.reserve (classSize i), { p with misses := p.misses + 1 })

/-- Takes a buffer back; it is kept without its content, unless its class is full. -/
def release (b : Buffer) (p : BlockPool) : BlockPool :=
  match classForBuffer? b.capacity with
  | none => p
  | some i =>
    { p with classes := p.classes.modify i fun kept =>
        if kept.length < p.maxPerClass then b.clear :: kept else kept }

/-- Number of buffers kept. -/
def available (p : BlockPool) : Nat := p.classes.foldr (fun kept n => kept.length + n) 0

end BlockPool

/-- A source of buffers. -/
inductive Pool where
  /-- Reserves every buffer anew, and counts them as `misses`. -/
  | direct (misses : UInt64)
  /-- Keeps buffers by size class. -/
  | block (p : BlockPool)

namespace Pool

instance : Inhabited Pool := ⟨direct 0⟩

/-- What a pool counts. -/
structure Stats where
  /-- Requests served from a kept buffer. -/
  hits : UInt64
  /-- Requests served by a new buffer, or not at all. -/
  misses : UInt64
  /-- Buffers kept. -/
  available : Nat
  deriving DecidableEq

/-- A buffer of at least the given capacity without content. -/
def acquire [Memory] (capacity : Nat) : Pool → Except Error Buffer × Pool
  | direct misses => (Buffer.reserve capacity, direct (misses + 1))
  | block p => let (b, p) := p.acquire capacity; (b, block p)

/-- Takes a buffer back. -/
def release (b : Buffer) : Pool → Pool
  | direct misses => direct misses
  | block p => block (p.release b)

/-- The counters. -/
def stats : Pool → Stats
  | direct misses => ⟨0, misses, 0⟩
  | block p => ⟨p.hits, p.misses, p.available⟩

/-- The pool without buffers, and with its counters at zero. -/
def reset : Pool → Pool
  | direct _ => direct 0
  | block p => block (.new p.maxPerClass)

end Pool

end Parcel
