import Mathlib.Logic.Relation
import Parcel.Container.Values
import Parcel.Proofs.Store.Agreement

/-!
# Edits of a store

Whatever a container does to the values in a store comes down to four edits: putting a value with a
name, appending one, changing a payload, and removing a name. What one edit preserves, every
operation on many values preserves too.

## Main definitions

* `Store.Edit` — one edit
* `Store.Edited` — any number of edits

## Main results

* `Store.edited_setAll`, `Store.edited_pushAll`, `Store.edited_removeAll`, `Store.edited_updateIf?`,
  `Store.edited_updateAll` — operations on many values are edits
* `Store.Exact.edited` — edits keep the index exact
-/

namespace Parcel.Store

/-- One edit. No edit brings a value without a name. -/
inductive Edit (s : Store) : Store → Prop where
  /-- The value `n` is put in place of the first one of its name, or at the end. -/
  | set {n : Named} (named : n.name ≠ "") : Edit s (s.set n)
  /-- The value `n` is appended. -/
  | push {n : Named} (named : n.name ≠ "") : Edit s (s.push n)
  /-- The payload of the first value of the name `key` changes. -/
  | replace {key : String} {value : Value} {made : Store}
    (replaced : s.replace? key value = some made) : Edit s made
  /-- The values of the name `key` are removed. -/
  | remove (key : String) : Edit s (s.remove key).1

/-- Any number of edits. -/
def Edited : Store → Store → Prop := Relation.ReflTransGen Edit

variable {s t : Store}

theorem Edit.edited (edit : s.Edit t) : s.Edited t := .single edit

/-- Putting values one after the other. -/
theorem edited_setAll {values : List Named} (named : ∀ n ∈ values, n.name ≠ "") :
    s.Edited (s.setAll values) := by
  unfold setAll
  induction values generalizing s with
  | nil => exact .refl
  | cons n rest ih =>
    obtain ⟨first, others⟩ := List.forall_mem_cons.mp named
    exact .head (.set first) (ih others)

/-- Appending values one after the other. -/
theorem edited_pushAll {values : List Named} (named : ∀ n ∈ values, n.name ≠ "") :
    s.Edited (s.pushAll values) := by
  unfold pushAll
  induction values generalizing s with
  | nil => exact .refl
  | cons n rest ih =>
    obtain ⟨first, others⟩ := List.forall_mem_cons.mp named
    exact .head (.push first) (ih others)

/-- Removing names one after the other. -/
theorem edited_removeAll (keys : List String) (s : Store) : s.Edited (s.removeAll keys).2 := by
  unfold removeAll
  -- the count that the loop carries along has no effect on the store
  generalize 0 = count
  induction keys generalizing s count with
  | nil => exact .refl
  | cons key rest ih =>
    have first : s.Edit (s.remove key).1 := .remove key
    rw [List.foldl_cons]
    dsimp only
    generalize s.remove key = removed at first
    obtain ⟨t, found⟩ := removed
    cases found <;> exact .head first (ih t _)

/-- An update whose condition holds. -/
theorem edited_updateIf? {u : Update} (made : s.updateIf? u = some t) : s.Edited t := by
  obtain ⟨n, -, rest⟩ := Option.bind_eq_some_iff.mp made
  split at rest
  · exact (Edit.replace rest).edited
  · cases rest

/-- Updates one after the other. -/
theorem edited_updateAll (us : List Update) (s : Store) : s.Edited (updateAll us s).2 := by
  induction us generalizing s with
  | nil => exact .refl
  | cons u rest ih =>
    rw [updateAll]
    cases updated : s.updateIf? u with
    | none => exact ih s
    | some t => exact (edited_updateIf? updated).trans (ih t)

theorem Exact.edit (exact : s.Exact) (edit : s.Edit t) : t.Exact := by
  cases edit with
  | set named => exact (exact.set _).1
  | push named => exact (exact.push _).1
  | @replace key value made replaced =>
    have kept := exact.replace? key value
    rw [replaced] at kept
    exact kept.2.1
  | remove key => exact (exact.remove key).1

/-- Edits keep the index `Exact`. -/
theorem Exact.edited (exact : s.Exact) (edited : s.Edited t) : t.Exact := by
  induction edited with
  | refl => exact exact
  | tail _ edit ih => exact ih.edit edit

end Parcel.Store
