import Parcel.Proofs.Store.Update

/-!
# Many operations on a store

An operation on a store answers, and may leave another store behind. Several of them are made one
after the other, each on what the ones before have left. What is done to many values in one go is
such a run: it is answered with what the answers of the run come to, and it leaves another store
exactly when an operation of the run does.

## Main definitions

* `Store.each` — operations one after the other
* `Store.putting`, `Store.removing`, `Store.updating`, `Store.asking` — single operations

## Main results

* `Store.isSome_each` — when a run leaves another store
* `Store.each_asking`, `Store.each_putting` — runs that ask and that put
* `Store.removeAll_eq`, `Store.each_removing_snd` — removing several names is a run
* `Store.updateAll_eq`, `Store.each_updating_snd` — so is making several updates
* `Store.Exact.getElem?_collect` — the first values of several names
-/

namespace Parcel.Store

variable {α β : Type} {s : Store}

/-- Operations on a store, one after the other. A store comes out if one of them has made one. -/
def each (f : α → Store → β × Option Store) : List α → Store → List β × Option Store
  | [], _ => ([], none)
  | a :: rest, s =>
    let (answer, made) := f a s
    let (answers, later) := each f rest (made.getD s)
    (answer :: answers, later.or made)

/-- Puts a value. -/
def putting (n : Named) (s : Store) : Except Error Unit × Option Store := (.ok (), some (s.set n))

/-- Removes the values of `key`, of which there has to be one. -/
def removing (key : String) (s : Store) : Except Error Unit × Option Store :=
  match s.remove key with
  | (s, true) => (.ok (), some s)
  | (_, false) => (.error (.keyNotFound key), none)

/-- Makes the update `u` if its condition holds. -/
def updating (u : Update) (s : Store) : Except Error Bool × Option Store :=
  match s.updateIf? u with
  | some s => (.ok true, some s)
  | none => (.ok false, none)

/-- Asks a question. -/
def asking (f : α → Store → β) (a : α) (s : Store) : Except Error β × Option Store :=
  (.ok (f a s), none)

theorem each_cons (f : α → Store → β × Option Store) (a : α) (rest : List α) (s : Store) :
    each f (a :: rest) s =
      ((f a s).1 :: (each f rest ((f a s).2.getD s)).1,
        (each f rest ((f a s).2.getD s)).2.or (f a s).2) := rfl

/-- When every answer tells by `p` whether another store was made, so do the answers of a run. -/
theorem isSome_each {f : α → Store → β × Option Store} {p : β → Bool}
    (told : ∀ a s, (f a s).2.isSome = p (f a s).1) (as : List α) (s : Store) :
    (each f as s).2.isSome = (each f as s).1.any p := by
  induction as generalizing s with
  | nil => rfl
  | cons a rest ih => rw [each_cons, Option.isSome_or, List.any_cons, ih, told, Bool.or_comm]

/-- What asks leaves the store as it is. -/
theorem each_asking (f : α → Store → β) (as : List α) (s : Store) :
    each (asking f) as s = (as.map fun a => .ok (f a s), none) := by
  induction as with
  | nil => rfl
  | cons a rest ih =>
    rw [each_cons]
    change (_ :: (each (asking f) rest s).1, (each (asking f) rest s).2.or none) = _
    rw [ih]
    rfl

/-! ## Putting -/

theorem each_putting (values : List Named) (s : Store) :
    each putting values s =
      (values.map fun _ => .ok (), if values.isEmpty then none else some (s.setAll values)) := by
  induction values generalizing s with
  | nil => rfl
  | cons n rest ih =>
    rw [each_cons]
    change (_ :: (each putting rest (s.set n)).1, (each putting rest (s.set n)).2.or _) = _
    rw [ih]
    -- behind the last value there is nothing left to put
    cases rest <;> rfl

/-! ## Removing -/

/-- A name without values is removed by doing nothing. -/
theorem remove_eq_self {key : String} (absent : (s.remove key).2 = false) :
    (s.remove key).1 = s := by
  cases s with
  | linear s =>
    have kept : (s.values.filter (·.name != key)).length = s.values.length := by
      simpa [remove, LinearStore.remove] using absent
    have same := List.filter_eq_self.2 (List.length_filter_eq_length_iff.1 kept)
    exact congrArg (fun values => linear ⟨values⟩) same
  | indexed s =>
    simp only [remove, IndexedStore.remove] at absent ⊢
    split at absent
    · rfl
    · split at absent <;> cases absent

/-- What `removing` does: it is refused exactly when it would do nothing. -/
theorem removing_cases (key : String) (s : Store) :
    (∃ t, s.remove key = (t, true) ∧ removing key s = (.ok (), some t)) ∨
      s.remove key = (s, false) ∧ removing key s = (.error (.keyNotFound key), none) := by
  have absent : (s.remove key).2 = false → (s.remove key).1 = s := remove_eq_self
  unfold removing
  generalize s.remove key = removed at absent
  obtain ⟨t, found⟩ := removed
  cases found with
  | false =>
    obtain rfl : t = s := absent rfl
    exact .inr ⟨rfl, rfl⟩
  | true => exact .inl ⟨t, rfl, rfl⟩

theorem isSome_removing (key : String) (s : Store) :
    (removing key s).2.isSome = (removing key s).1.isOk := by
  obtain ⟨t, -, removed⟩ | ⟨-, refused⟩ := removing_cases key s
  · rw [removed]
    rfl
  · rw [refused]
    rfl

/-- The store and the count of removals after one more name. -/
def removeStep : Nat × Store → String → Nat × Store
  | (count, s), key =>
    match s.remove key with
    | (s, true) => (count + 1, s)
    | (s, false) => (count, s)

/-- A run of removals goes on counting from what was counted before. -/
theorem foldl_removeStep (keys : List String) (count : Nat) (s : Store) :
    keys.foldl removeStep (count, s) =
      (count + (each removing keys s).1.countP (·.isOk), (each removing keys s).2.getD s) := by
  induction keys generalizing count s with
  | nil => rfl
  | cons key rest ih =>
    rw [List.foldl_cons, each_cons, List.countP_cons, removeStep]
    obtain ⟨t, removed, answered⟩ | ⟨same, refused⟩ := removing_cases key s
    · rw [removed, answered]
      refine (ih (count + 1) t).trans ?_
      rw [Option.getD_some, Option.getD_or, Option.getD_some, Nat.add_assoc, Nat.add_comm 1]
      rfl
    · rw [same, refused]
      refine (ih count s).trans ?_
      rw [Option.getD_none, Option.or_none]
      rfl

/-- Removing several names by `removeAll` counts the removals of a run, and leaves what the run
leaves. -/
theorem removeAll_eq (keys : List String) (s : Store) :
    s.removeAll keys =
      ((each removing keys s).1.countP (·.isOk), (each removing keys s).2.getD s) :=
  (foldl_removeStep keys 0 s).trans (by rw [Nat.zero_add])

/-- Another store is left when a name was removed. -/
theorem each_removing_snd (keys : List String) (s : Store) :
    (each removing keys s).2 =
      if (s.removeAll keys).1 = 0 then none else some (s.removeAll keys).2 := by
  have told := isSome_each isSome_removing keys s
  rw [removeAll_eq]
  cases made : (each removing keys s).2 with
  | none =>
    rw [made] at told
    have nothing : (each removing keys s).1.countP (·.isOk) = 0 := by
      rw [List.countP_eq_zero]
      simpa using told.symm
    rw [if_pos nothing]
  | some t =>
    rw [made] at told
    have something : (each removing keys s).1.countP (·.isOk) ≠ 0 := by
      rw [← Nat.pos_iff_ne_zero, List.countP_pos_iff]
      simpa using told.symm
    rw [if_neg something]
    rfl

/-! ## Updating -/

theorem isSome_updating (u : Update) (s : Store) :
    (updating u s).2.isSome = (updating u s).1.toOption.getD false := by
  unfold updating
  cases s.updateIf? u <;> rfl

/-- Several updates by `updateAll` tell what the updates of a run tell, and leave what the run
leaves. -/
theorem updateAll_eq (us : List Update) (s : Store) :
    updateAll us s =
      ((each updating us s).1.map (·.toOption.getD false), (each updating us s).2.getD s) := by
  induction us generalizing s with
  | nil => rfl
  | cons u us ih =>
    rw [updateAll_cons, ih, each_cons]
    unfold updating
    cases s.updateIf? u with
    | none => simp [Except.toOption]
    | some t => simp [Except.toOption]

/-- Another store is left when an update was made. -/
theorem each_updating_snd (us : List Update) (s : Store) :
    (each updating us s).2 =
      if (updateAll us s).1.any id then some (updateAll us s).2 else none := by
  have told := isSome_each (p := fun r : Except Error Bool => r.toOption.getD false)
    isSome_updating us s
  rw [updateAll_eq, List.any_map]
  cases made : (each updating us s).2 with
  | none =>
    rw [made] at told
    exact (if_neg (by simp [← told])).symm
  | some t =>
    rw [made] at told
    exact (if_pos told.symm).symm

/-! ## Asking for several names -/

/-- The values `found` so far and the first value of one more name, unless the name is known. -/
def collectStep (s : Store) (found : Std.TreeMap String Value) (key : String) :
    Std.TreeMap String Value :=
  match s.get? key with
  | some n => found.insertIfNew n.name n.value
  | none => found

/-- What was `found` before stays, and every other name that is asked for gets its first value. -/
theorem Exact.getElem?_foldl_collectStep (exact : s.Exact) (keys : List String) (key : String)
    (found : Std.TreeMap String Value) : (keys.foldl s.collectStep found)[key]? =
      found[key]?.or (if key ∈ keys then (s.get? key).map (·.value) else none) := by
  induction keys generalizing found with
  | nil => simp
  | cons asked rest ih =>
    rw [List.foldl_cons, ih, collectStep]
    simp only [List.mem_cons]
    cases first : s.get? asked with
    | none =>
      by_cases same : key = asked
      · subst same
        simp [first]
      · simp [same]
    | some n =>
      have named : n.name = asked := by
        rw [exact.get?_eq] at first
        simpa using List.find?_some first
      dsimp only
      rw [Std.TreeMap.getElem?_insertIfNew, named]
      by_cases same : key = asked
      · subst same
        -- a name asked for twice keeps what was found first
        by_cases taken : key ∈ found
        · simp [first, taken]
        · simp [first, taken]
      · have differ : ¬ asked = key := fun equal => same equal.symm
        simp [same, differ]

/-- What `collect` has under a name that was asked for is its first value. -/
theorem Exact.getElem?_collect (exact : s.Exact) (keys : List String) (key : String) :
    (s.collect keys)[key]? = if key ∈ keys then (s.get? key).map (·.value) else none := by
  have collected : (s.collect keys)[key]? = _ := exact.getElem?_foldl_collectStep keys key ∅
  rw [collected]
  simp

end Parcel.Store
