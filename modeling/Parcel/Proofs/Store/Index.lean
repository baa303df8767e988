import Parcel.Store

/-!
# The index of a store

The index of an indexed store is exact: it maps every name that is present to the position of the
first value of that name, and nothing else. Positions depend on the names alone, so replacing a
value under its own name leaves the index exact, and appending one adds at most one position.
Removing a value that is alone under its name moves the later positions down by one; otherwise the
index is made anew.

## Main definitions

* `Named.position?` — the position of the first value of a name
* `Named.put`, `Named.amend` — the first value of a name replaced
* `IndexedStore.Exact` — the index maps exactly the names present to their first positions

## Main results

* `IndexedStore.exact_ofList`, `IndexedStore.Exact.set`, `IndexedStore.Exact.push`,
  `IndexedStore.Exact.replace`, `IndexedStore.Exact.remove` — every operation keeps the index exact
* `IndexedStore.Exact.lt_size` — no position is past the end
-/

namespace Parcel

namespace Named

variable {key : String} {values : List Named} {n : Named} {i : Nat}

/-- The position of the first value of the name `key`. -/
def position? (key : String) (values : List Named) : Option Nat :=
  values.findIdx? (·.name == key)

/-- Puts a value in place of the first one of its name, or at the end when there is none. -/
def put (n : Named) : List Named → List Named
  | [] => [n]
  | m :: rest => if m.name = n.name then n :: rest else m :: put n rest

/-- Changes the payload of the first value of the name `key`. -/
def amend (key : String) (value : Value) : List Named → List Named
  | [] => []
  | m :: rest => if m.name = key then ⟨m.name, value⟩ :: rest else m :: amend key value rest

theorem position?_cons (m : Named) : position? key (m :: values) =
    if m.name = key then some 0 else (position? key values).map (· + 1) := by
  simp [position?, List.findIdx?_cons]

theorem position?_append (later : List Named) : position? key (values ++ later) =
    (position? key values).or ((position? key later).map (· + values.length)) := by
  simp [position?, List.findIdx?_append]

theorem position?_eq_none_iff : position? key values = none ↔ ∀ m ∈ values, m.name ≠ key := by
  simp [position?, List.findIdx?_eq_none_iff]

/-- A `position?` depends on the names alone. -/
theorem position?_congr {others : List Named}
    (names : values.map (·.name) = others.map (·.name)) :
    position? key values = position? key others := by
  have byName (l : List Named) : position? key l = (l.map (·.name)).findIdx? (· == key) := by
    rw [List.findIdx?_map]; rfl
  rw [byName, byName, names]

/-- The values `before` and `behind` the first one of a name. -/
theorem split_of_position? (found : position? key values = some i) :
    ∃ before m behind, values = before ++ m :: behind ∧ before.length = i ∧ m.name = key ∧
      ∀ b ∈ before, b.name ≠ key := by
  induction values generalizing i with
  | nil => simp [position?] at found
  | cons m rest ih =>
    rw [position?_cons] at found
    split at found
    · next same =>
      cases found
      exact ⟨[], m, rest, rfl, rfl, same, by simp⟩
    · next other =>
      obtain ⟨j, foundLater, rfl⟩ := Option.map_eq_some_iff.1 found
      obtain ⟨before, m', behind, rfl, rfl, same, others⟩ := ih foundLater
      refine ⟨m :: before, m', behind, rfl, rfl, same, ?_⟩
      intro b member
      rcases List.mem_cons.1 member with rfl | earlier
      · exact other
      · exact others b earlier

theorem find?_eq_bind_position? :
    find? key values = (position? key values).bind fun i => values[i]? :=
  List.find?_eq_bind_findIdx?_getElem?

theorem put_eq_append (absent : position? n.name values = none) : put n values = values ++ [n] := by
  induction values with
  | nil => rfl
  | cons m rest ih =>
    rw [position?_eq_none_iff, List.forall_mem_cons] at absent
    rw [put, if_neg absent.1, ih (position?_eq_none_iff.2 absent.2), List.cons_append]

theorem put_eq_set (found : position? n.name values = some i) : put n values = values.set i n := by
  induction values generalizing i with
  | nil => simp [position?] at found
  | cons m rest ih =>
    rw [position?_cons] at found
    rw [put]
    split at found
    · next same =>
      cases found
      rw [if_pos same, List.set_cons_zero]
    · next other =>
      obtain ⟨j, foundLater, rfl⟩ := Option.map_eq_some_iff.1 found
      rw [if_neg other, ih foundLater, List.set_cons_succ]

theorem amend_eq_self {value : Value} (absent : position? key values = none) :
    amend key value values = values := by
  induction values with
  | nil => rfl
  | cons m rest ih =>
    rw [position?_eq_none_iff, List.forall_mem_cons] at absent
    rw [amend, if_neg absent.1, ih (position?_eq_none_iff.2 absent.2)]

theorem amend_eq_modify {value : Value} (found : position? key values = some i) :
    amend key value values = values.modify i fun m => { m with value } := by
  induction values generalizing i with
  | nil => simp [position?] at found
  | cons m rest ih =>
    rw [position?_cons] at found
    rw [amend]
    split at found
    · next same =>
      cases found
      rw [if_pos same, List.modify_cons, if_pos rfl]
    · next other =>
      obtain ⟨j, foundLater, rfl⟩ := Option.map_eq_some_iff.1 found
      rw [if_neg other, ih foundLater, List.modify_succ_cons]

theorem map_name_amend (key : String) (value : Value) (values : List Named) :
    (amend key value values).map (·.name) = values.map (·.name) := by
  induction values with
  | nil => rfl
  | cons m rest ih =>
    rw [amend]
    split
    · rfl
    · rw [List.map_cons, ih, List.map_cons]

theorem map_name_put (found : position? n.name values = some i) :
    (put n values).map (·.name) = values.map (·.name) := by
  induction values generalizing i with
  | nil => simp [position?] at found
  | cons m rest ih =>
    rw [position?_cons] at found
    rw [put]
    split at found
    · next same => rw [if_pos same, List.map_cons, List.map_cons, same]
    · next other =>
      obtain ⟨j, foundLater, rfl⟩ := Option.map_eq_some_iff.1 found
      rw [if_neg other, List.map_cons, ih foundLater, List.map_cons]

/-- Without the name, the filter keeps everything. -/
theorem filter_name_ne (absent : ∀ m ∈ values, m.name ≠ key) :
    values.filter (·.name != key) = values := by
  rw [List.filter_eq_self]
  intro m member
  simpa using absent m member

end Named

namespace IndexedStore

open Named (position?)

variable {s : IndexedStore} {key : String} {n : Named}

/-- The index maps exactly the names present, each to the position of its first value. -/
def Exact (s : IndexedStore) : Prop := ∀ key, s.index[key]? = position? key s.toList

theorem getElem?_indexFrom (index : Std.TreeMap String Nat) (i : Nat) (values : List Named) :
    (indexFrom index i values)[key]? =
      index[key]?.or ((position? key values).map (· + i)) := by
  induction values generalizing index i with
  | nil => simp [indexFrom, position?]
  | cons m rest ih =>
    rw [indexFrom, ih, Named.position?_cons, Std.TreeMap.getElem?_insertIfNew]
    by_cases same : m.name = key
    · subst same
      by_cases taken : m.name ∈ index <;> simp [taken]
    · have shift : ∀ j : Nat, j + (i + 1) = j + 1 + i := by omega
      simp [same, Function.comp_def, shift]

theorem exact_ofList (values : List Named) : (ofList values).Exact := by
  intro key
  simp [ofList, toList, getElem?_indexFrom]

theorem toList_push (s : IndexedStore) (n : Named) : (s.push n).toList = s.toList ++ [n] := by
  simp [push, toList]

theorem Exact.push (exact : s.Exact) (n : Named) : (s.push n).Exact := by
  intro key
  rw [toList_push, Named.position?_append, ← exact key]
  simp only [IndexedStore.push, Std.TreeMap.getElem?_insertIfNew, Named.position?_cons]
  by_cases same : n.name = key
  · subst same
    by_cases taken : n.name ∈ s.index
    · simp [taken]
    · simp [taken, toList]
  · simp [same, position?]

theorem Exact.toList_set (exact : s.Exact) (n : Named) :
    (s.set n).toList = Named.put n s.toList := by
  have known := exact n.name
  rw [set]
  split
  · next i found =>
    rw [Named.put_eq_set (known.symm.trans found)]
    simp [toList]
  · next absent => rw [toList_push, Named.put_eq_append (known.symm.trans absent)]

theorem Exact.set (exact : s.Exact) (n : Named) : (s.set n).Exact := by
  have known := exact n.name
  have after := exact.toList_set n
  unfold IndexedStore.set at after ⊢
  split
  · next i found =>
    simp only [found] at after
    intro key
    rw [after, Named.position?_congr (Named.map_name_put (known.symm.trans found))]
    exact exact key
  · exact exact.push n

theorem Exact.get?_eq (exact : s.Exact) (key : String) : s.get? key = Named.find? key s.toList := by
  rw [get?, exact key, Named.find?_eq_bind_position?]
  simp [toList]

/-- No position in an `Exact` index is past the end. -/
theorem Exact.lt_size (exact : s.Exact) {i : Nat} (known : s.index[key]? = some i) :
    i < s.values.size := by
  rw [exact key] at known
  simpa [toList] using (List.findIdx?_eq_some_iff_getElem.1 known).1

theorem Exact.replace?_eq_none (exact : s.Exact) (value : Value) (absent : s.index[key]? = none) :
    s.replace? key value = none ∧ Named.amend key value s.toList = s.toList := by
  refine ⟨by simp [replace?, absent], Named.amend_eq_self ?_⟩
  rw [← exact key, absent]

theorem Exact.replace (exact : s.Exact) (value : Value) {i : Nat}
    (found : s.index[key]? = some i) :
    ∃ t, s.replace? key value = some t ∧ t.toList = Named.amend key value s.toList ∧ t.Exact := by
  let t : IndexedStore := { s with values := s.values.modify i fun m => { m with value } }
  have amended : t.toList = Named.amend key value s.toList := by
    rw [Named.amend_eq_modify ((exact key).symm.trans found)]
    exact Array.toList_modify
  refine ⟨t, ?_, amended, ?_⟩
  · rw [replace?, found, Option.bind_some, if_pos (exact.lt_size found)]
  · intro other
    rw [amended, Named.position?_congr (Named.map_name_amend key value s.toList)]
    exact exact other

/-- Behind the removed value `m`, every position moves down by one. -/
theorem position?_remove {before behind : List Named} {m : Named} {other : String}
    (others : ∀ b ∈ before, b.name ≠ m.name) (alone : ∀ b ∈ behind, b.name ≠ m.name) :
    position? other (before ++ behind) =
      if m.name = other then none
      else (position? other (before ++ m :: behind)).map fun j =>
        if before.length < j then j - 1 else j := by
  split
  · next same =>
    subst same
    rw [Named.position?_eq_none_iff, List.forall_mem_append]
    exact ⟨others, alone⟩
  · next different =>
    rw [Named.position?_append, Named.position?_append, Named.position?_cons, if_neg different]
    -- only positions behind the removed one change
    cases first : position? other before with
    | some j =>
      have early : j < before.length := (List.findIdx?_eq_some_iff_getElem.1 first).1
      simp [Nat.not_lt_of_lt early]
    | none =>
      cases position? other behind with
      | none => simp
      | some j =>
        have late : before.length < j + 1 + before.length := by omega
        simp only [Option.map_some, Option.none_or, if_pos late]
        congr 1
        omega

theorem Exact.remove (exact : s.Exact) (key : String) :
    (s.remove key).1.Exact ∧ (s.remove key).1.toList = s.toList.filter (·.name != key) ∧
      (s.remove key).2 = s.toList.any (·.name == key) := by
  have known := exact key
  rw [IndexedStore.remove]
  split
  · next absent =>
    have none := Named.position?_eq_none_iff.1 (known.symm.trans absent)
    refine ⟨exact, (Named.filter_name_ne none).symm, ?_⟩
    simpa [List.any_eq_false] using none
  · next i found =>
    obtain ⟨before, m, behind, split, rfl, rfl, others⟩ :=
      Named.split_of_position? (known.symm.trans found)
    have present : s.toList.any (·.name == m.name) = true := by simp [split]
    have erased : (s.values.eraseIdxIfInBounds before.length).toList = before ++ behind := by
      rw [Array.toList_eraseIdxIfInBounds, show s.values.toList = _ from split,
        List.eraseIdx_append_of_length_le (Nat.le_refl _)]
      simp
    have kept : s.toList.filter (·.name != m.name) =
        (before ++ behind).filter (·.name != m.name) := by simp [split]
    simp only [erased, List.drop_left, kept, present]
    -- another value of the name has the index made anew; a value alone only takes its entry along
    split
    · next again => exact ⟨exact_ofList _, by simp [ofList, toList], rfl⟩
    · next alone =>
      have alone : ∀ b ∈ behind, b.name ≠ m.name := by simpa using alone
      refine ⟨?_, ?_, rfl⟩
      · intro other
        rw [toList, erased, position?_remove others alone, ← split, ← exact other]
        rw [Std.TreeMap.getElem?_map, Std.TreeMap.getElem?_erase]
        by_cases same : m.name = other
        · simp [same]
        · simp [same]
      · rw [toList, erased, Named.filter_name_ne]
        exact List.forall_mem_append.2 ⟨others, alone⟩

end IndexedStore

end Parcel
