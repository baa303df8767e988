import Parcel.Bytes
import Parcel.Error

/-!
# Memory

Two things are left to the allocator: whether it grants a reservation, and how much room a buffer
has after it was written to beyond its capacity. It grants what the largest size class of a pool
takes, and whatever it makes of a buffer, the content fits.

## Main definitions

* `Parcel.Memory` — an allocator
* `Memory.reserve` — a reservation, which can fail
-/

namespace Parcel

/-- An allocator. -/
class Memory where
  /-- Whether so many bytes can be reserved at once. -/
  grants : Nat → Bool
  /-- The capacity of a buffer of `capacity` bytes that has come to hold `content`, for which it had
  no room. -/
  grown (capacity : Nat) (content : Bytes) : Nat
  /-- There is always memory for a megabyte, so `grants` has to give it. -/
  grants_of_le {n : Nat} : n ≤ 1024 * 1024 → grants n = true
  /-- A buffer grows as far as its `content` takes. -/
  length_le_grown (capacity : Nat) (content : Bytes) : content.length ≤ grown capacity content

namespace Memory

/-- Reserves `n` bytes. -/
def reserve [Memory] (n : Nat) : Except Error Unit :=
  if grants n then .ok () else .error (.memoryAllocationFailed (.quoted "" (.memory n)))

namespace Plenty

/-- Memory that grants whatever can be addressed, and in which buffers at least double. -/
scoped instance : Memory where
  grants n := n < 0x8000000000000000
  grown capacity content := max (2 * capacity) content.length
  grants_of_le le := decide_eq_true (Nat.lt_of_le_of_lt le (by decide))
  length_le_grown _ _ := Nat.le_max_right _ _

end Plenty

end Memory

end Parcel
