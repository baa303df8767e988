import Parcel.Value

/-!
# The linear store

Named values in the order in which they came, found by looking through them.
-/

namespace Parcel

/-- Named values in order. -/
structure LinearStore where
  /-- The values. -/
  values : List Named

namespace LinearStore

/-- The store of the given values. -/
def ofList (values : List Named) : LinearStore := ⟨values⟩

/-- The values in order. -/
def toList (s : LinearStore) : List Named := s.values

/-- The position of the first value of the name `key`. -/
def position? (key : String) (s : LinearStore) : Option Nat :=
  s.values.findIdx? (·.name == key)

/-- Appends a value, whether or not its name is taken. -/
def push (n : Named) (s : LinearStore) : LinearStore := ⟨s.values ++ [n]⟩

/-- Puts the value `n` in place of the first one of its name, or at the end when there is none. -/
def set (n : Named) (s : LinearStore) : LinearStore :=
  match s.position? n.name with
  | some i => ⟨s.values.set i n⟩
  | none => s.push n

/-- The first value of a name. -/
def get? (key : String) (s : LinearStore) : Option Named := s.values.find? (·.name == key)

/-- Changes the payload of the first value of a name; `none` when there is none. -/
def replace? (key : String) (value : Value) (s : LinearStore) : Option LinearStore :=
  (s.position? key).map fun i => ⟨s.values.modify i fun n => { n with value }⟩

/-- Removes all values of the name `key`, and tells whether there was one. -/
def remove (key : String) (s : LinearStore) : LinearStore × Bool :=
  let kept := s.values.filter (·.name != key)
  (⟨kept⟩, kept.length != s.values.length)

end LinearStore

end Parcel
