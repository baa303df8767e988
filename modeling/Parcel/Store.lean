import Parcel.Memory
import Parcel.Store.Indexed
import Parcel.Store.Linear
import Parcel.Value.Footprint

/-!
# Stores

A container keeps its values in a store. Two policies lay the values out differently and answer
alike.

## Main definitions

* `Parcel.Policy` — the two layouts
* `Parcel.Store` — named values under a policy
-/

namespace Parcel

/-- How a store finds values. -/
inductive Policy where
  /-- By looking through them. -/
  | linear
  /-- By an index of names. -/
  | indexed
  deriving DecidableEq, Inhabited

namespace Policy

/-- The name of a policy. -/
def name : Policy → String
  | linear => "linear"
  | indexed => "indexed"

/-- The policy of a name. -/
def ofName? (name : String) : Option Policy := [linear, indexed].find? (·.name == name)

end Policy

/-- Named values in order, under one of the policies. -/
inductive Store where
  /-- Under the linear policy. -/
  | linear (s : LinearStore)
  /-- Under the indexed policy. -/
  | indexed (s : IndexedStore)

namespace Store

/-- The policy of a store. -/
def policy : Store → Policy
  | linear _ => .linear
  | indexed _ => .indexed

/-- The store of the given values. -/
def ofList : Policy → List Named → Store
  | .linear, values => linear (.ofList values)
  | .indexed, values => indexed (.ofList values)

/-- A store without values. -/
def empty (p : Policy) : Store := ofList p []

/-- The values in order. -/
def toList : Store → List Named
  | linear s => s.toList
  | indexed s => s.toList

/-- Number of values. -/
def size (s : Store) : Nat := s.toList.length

/-- Appends a value, whether or not its name is taken. -/
def push (n : Named) : Store → Store
  | linear s => linear (s.push n)
  | indexed s => indexed (s.push n)

/-- Puts a value in place of the first one of its name, or at the end when there is none. -/
def set (n : Named) : Store → Store
  | linear s => linear (s.set n)
  | indexed s => indexed (s.set n)

/-- The first value of a name. -/
def get? (key : String) : Store → Option Named
  | linear s => s.get? key
  | indexed s => s.get? key

/-- Whether a value has the name. -/
def contains (key : String) (s : Store) : Bool := (s.get? key).isSome

/-- Changes the payload of the first value of a name; `none` when there is none. -/
def replace? (key : String) (value : Value) : Store → Option Store
  | linear s => (s.replace? key value).map linear
  | indexed s => (s.replace? key value).map indexed

/-- Removes all values of a name, and tells whether there was one. -/
def remove (key : String) : Store → Store × Bool
  | linear s => let (s, found) := s.remove key; (linear s, found)
  | indexed s => let (s, found) := s.remove key; (indexed s, found)

/-- The same store without its values. -/
def clear (s : Store) : Store := empty s.policy

/-- Reserves memory for so many further values. -/
def reserve [Memory] (n : Nat) : Except Error Unit := Memory.reserve (n * Named.fixedSize)

end Store

end Parcel
