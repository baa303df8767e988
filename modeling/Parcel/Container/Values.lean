import Std.Data.TreeMap
import Parcel.Container.Basic
import Parcel.Value.Equality
import Parcel.Value.Typed

/-!
# The values of a container

Looking values up, changing them one at a time or many at once, and replacing a value only if it
is still what the caller believes. No operation stores a value without a name. An operation that
can report an error reports values that cannot be decoded; one that cannot answers as if there
were none.

## Main definitions

* `Container.set`, `Container.get`, `Container.remove`, `Container.clear`
* `Container.setAll`, `Container.bulkInsert`, `Container.getBatch`, `Container.removeBatch`
* `Container.updateIf`, `Container.updateBatchIf`
-/

namespace Parcel

/-- A replacement under the condition that a value is still the expected one. -/
structure Update where
  /-- The name. -/
  key : String
  /-- What the first value of the name has to be. -/
  expected : Value
  /-- What it becomes. -/
  value : Value

namespace Store

/-- The first value of `key` as the `target` type. -/
def readAs (key : String) (target : Target) (s : Store) : Except Error Reading :=
  match s.get? key with
  | none => .error (.keyNotFound key)
  | some n =>
    match n.value.readAs? target with
    | some r => .ok r
    | none => .error (.typeMismatch key target.label n.kind)

/-- The store after an update whose condition holds. -/
def updateIf? (u : Update) (s : Store) : Option Store := do
  let n ← s.get? u.key
  if n.value.equal u.expected then s.replace? u.key u.value else none

/-- Puts `values`, one after the other. -/
def setAll (values : List Named) (s : Store) : Store := values.foldl (fun s n => s.set n) s

/-- Appends several values. -/
def pushAll (values : List Named) (s : Store) : Store := values.foldl (fun s n => s.push n) s

/-- Removes the values of `keys`, one after the other, and counts the keys that had one. -/
def removeAll (keys : List String) (s : Store) : Nat × Store :=
  keys.foldl
    (fun (count, s) key => match s.remove key with
      | (s, true) => (count + 1, s)
      | (s, false) => (count, s))
    (0, s)

/-- Makes several updates, one after the other, and tells which were made. -/
def updateAll : List Update → Store → List Bool × Store
  | [], s => ([], s)
  | u :: rest, s =>
    let (made, s) := match s.updateIf? u with
      | some s => (true, s)
      | none => (false, s)
    let (results, s) := updateAll rest s
    (made :: results, s)

/-- The first values of `keys` by name; keys that have none are left out. -/
def collect (keys : List String) (s : Store) : Std.TreeMap String Value :=
  keys.foldl
    (fun found key => match s.get? key with
      | some n => found.insertIfNew n.name n.value
      | none => found)
    ∅

end Store

namespace Container

/-! ## Single values -/

/-- Puts the value `n` in place of the first one of its name, or at the end. -/
def set (n : Named) (c : Container) : Except Error Unit × Container :=
  if n.name = "" then (.error .emptyKey, c)
  else c.visit fun store => (.ok (), some (store.set n))

/-- The first value of the name `key` as the `target` type. -/
def get (key : String) (target : Target) (c : Container) : Except Error Reading × Container :=
  c.query (Store.readAs key target)

/-- The first value of the name `key`. -/
def getValue (key : String) (c : Container) : Option Named × Container :=
  c.queryOr none (Store.get? key)

/-- Whether there is a value of the name `key`. -/
def contains (key : String) (c : Container) : Bool × Container :=
  c.queryOr false (Store.contains key)

/-- Removes all values of the name `key`, of which there has to be one. -/
def remove (key : String) (c : Container) : Except Error Unit × Container :=
  c.visit fun store =>
    match store.remove key with
    | (store, true) => (.ok (), some store)
    | (_, false) => (.error (.keyNotFound key), none)

/-- Removes all values. Deferred values are not decoded before. -/
def clear (c : Container) : Container := c.holding (.empty c.policy)

/-- Number of values. -/
def size (c : Container) : Nat × Container := c.queryOr 0 Store.size

/-- The names in order. -/
def keys (c : Container) : List String × Container :=
  c.queryOr [] fun store => store.toList.map (·.name)

/-- The values in order. -/
def values (c : Container) : List Named × Container := c.queryOr [] Store.toList

/-- Header and values as a document. -/
def snapshot (c : Container) : Except Error Document × Container :=
  c.query fun store => .ok ⟨c.header, store.toList⟩

/-! ## Many values at once -/

/-- Whether all values have a name. -/
def allNamed (values : List Named) : Bool := values.all (·.name != "")

/-- Puts several values, one after the other. -/
def setAll (values : List Named) (c : Container) : Except Error Unit × Container :=
  if !allNamed values then (.error .emptyKey, c)
  else c.visit fun store =>
    (.ok (), if values.isEmpty then none else some (store.setAll values))

/-- Appends `values`, whether or not their names are taken. -/
def bulkInsert [Memory] (values : List Named) (c : Container) : Except Error Unit × Container :=
  if !allNamed values then (.error .emptyKey, c)
  else if values.isEmpty then (.ok (), c)
  else c.visit fun store =>
    match Store.reserve values.length with
    | .error e => (.error e, none)
    | .ok () => (.ok (), some (store.pushAll values))

/-- The first values of several names. -/
def getBatch (keys : List String) (c : Container) : List (Option Named) × Container :=
  c.queryOr (keys.map fun _ => none) fun store => keys.map store.get?

/-- The first values of several names by name; names that have none are left out. -/
def getBatchMap (keys : List String) (c : Container) : Std.TreeMap String Value × Container :=
  c.queryOr ∅ (Store.collect keys)

/-- Which of several names have a value. -/
def containsBatch (keys : List String) (c : Container) : List Bool × Container :=
  c.queryOr (keys.map fun _ => false) fun store => keys.map store.contains

/-- Removes the values of `keys`, one after the other, and counts the names that had one. -/
def removeBatch (keys : List String) (c : Container) : Nat × Container :=
  let (count, c) := c.visit fun store =>
    let (count, store) := store.removeAll keys
    (.ok count, if count = 0 then none else some store)
  (count.toOption.getD 0, c)

/-! ## Conditional updates -/

/-- Makes an update if its condition holds, and tells whether it did. -/
def updateIf (u : Update) (c : Container) : Bool × Container :=
  let (made, c) := c.visit fun store =>
    match store.updateIf? u with
    | some store => (.ok true, some store)
    | none => (.ok false, none)
  (made.toOption.getD false, c)

/-- Makes the updates `us`, one after the other, and tells which were made. -/
def updateBatchIf (us : List Update) (c : Container) : List Bool × Container :=
  let (made, c) := c.visit fun store =>
    let (made, store) := store.updateAll us
    (.ok made, if made.any id then some store else none)
  (made.toOption.getD (us.map fun _ => false), c)

/-! ## The kept text -/

/-- Scans the text that is kept, and tells whether there is one. -/
def ensureIndex (c : Container) : Except Error Bool × Container :=
  match c.content with
  | .held store (some raw) =>
    (raw.entries.map fun _ => true, { c with content := .held store (some raw.indexed) })
  | .held _ none => (.ok false, c)
  | .deferred raw =>
    (raw.entries.map fun _ => true, { c with content := .deferred raw.indexed })

/-- The first entry of the name `key` in the text that is kept. -/
def view? (key : String) (c : Container) : Option View × Container :=
  (c.raw?.bind (RawText.view? key), c.ensureIndex.2)

/-- All entries of the text that is kept. -/
def views (c : Container) : List View × Container :=
  ((c.raw?.map RawText.views).getD [], c.ensureIndex.2)

end Container

end Parcel
