import Std.Data.TreeMap
import Parcel.Value

/-!
# The indexed store

Named values in the order in which they came, with an index from every name to the position of its
first value. Removing a value moves all later ones, and the index with them.
-/

namespace Parcel

/-- Named values in order, and the position of the first one of every name. -/
structure IndexedStore where
  /-- The values. -/
  values : Array Named
  /-- The position of the first value of a name. -/
  index : Std.TreeMap String Nat

namespace IndexedStore

/-- The index of values from position `i` on, in addition to what is indexed already. -/
def indexFrom (index : Std.TreeMap String Nat) (i : Nat) : List Named → Std.TreeMap String Nat
  | [] => index
  | n :: rest => indexFrom (index.insertIfNew n.name i) (i + 1) rest

/-- The store of the given values. -/
def ofList (values : List Named) : IndexedStore := ⟨values.toArray, indexFrom ∅ 0 values⟩

/-- The values in order. -/
def toList (s : IndexedStore) : List Named := s.values.toList

/-- Appends a value, whether or not its name is taken. -/
def push (n : Named) (s : IndexedStore) : IndexedStore :=
  ⟨s.values.push n, s.index.insertIfNew n.name s.values.size⟩

/-- Puts the value `n` in place of the first one of its name, or at the end when there is none. -/
def set (n : Named) (s : IndexedStore) : IndexedStore :=
  match s.index[n.name]? with
  | some i => { s with values := s.values.setIfInBounds i n }
  | none => s.push n

/-- The first value of the name `key`. -/
def get? (key : String) (s : IndexedStore) : Option Named :=
  s.index[key]?.bind fun i => s.values[i]?

/-- Changes the payload of the first value of a name; `none` when there is none. -/
def replace? (key : String) (value : Value) (s : IndexedStore) : Option IndexedStore :=
  s.index[key]?.bind fun i =>
    if i < s.values.size then
      some { s with values := s.values.modify i fun n => { n with value } }
    else none

/-- Removes all values of the name `key`, and tells whether there was one. When the first one was
the only one, the positions behind it move down by one; otherwise the index is made anew. -/
def remove (key : String) (s : IndexedStore) : IndexedStore × Bool :=
  match s.index[key]? with
  | none => (s, false)
  | some i =>
    let values := s.values.eraseIdxIfInBounds i
    if (values.toList.drop i).any (·.name == key) then
      (ofList (values.toList.filter (·.name != key)), true)
    else
      (⟨values, (s.index.erase key).map fun _ j => if i < j then j - 1 else j⟩, true)

end IndexedStore

end Parcel
