import Parcel.Value

/-!
# Memory

The memory that values and documents take, with every buffer exactly as large as its content. A
value, a named value and a document have fixed sizes of their own, to which the memory of their
payloads is added.
-/

namespace Parcel

/-- The size of a value without its payload's buffers. -/
def Value.fixedSize : Nat := 32

/-- The size of a named value without its buffers. -/
def Named.fixedSize : Nat := 56

/-- The size of a document without its buffers. -/
def Document.fixedSize : Nat := 168

mutual

/-- The memory of a value's buffers. -/
def Value.heapSize : Value → Nat
  | .string s => s.utf8ByteSize
  | .bytes s => s.length
  | .container d => Document.fixedSize + d.footprint
  | .array items => items.length * Value.fixedSize + Value.heapSizes items
  | _ => 0

/-- The memory of the buffers of several values. -/
def Value.heapSizes : List Value → Nat
  | [] => 0
  | v :: rest => v.heapSize + Value.heapSizes rest

/-- The memory of a named value. -/
def Named.footprint : Named → Nat
  | ⟨name, value⟩ => Named.fixedSize + name.utf8ByteSize + value.heapSize

/-- The memory of several named values. -/
def Named.footprints : List Named → Nat
  | [] => 0
  | n :: rest => n.footprint + Named.footprints rest

/-- The memory of a document's header and values. -/
def Document.footprint : Document → Nat
  | ⟨header, values⟩ => header.heapSize + Named.footprints values

end

end Parcel
