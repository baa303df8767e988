import Parcel.Proofs.Store.Index

/-!
# Both policies agree with a list

Whatever is asked of a store, the answers and the values it holds are those of the plain list of its
values, whichever policy it is under. Under the indexed policy the index is exact all along.

## Main definitions

* `Store.Request`, `Store.Answer` — what can be asked of a store, and what it answers
* `Store.perform`, `Named.perform` — one request to a store, and to a plain list
* `Store.run`, `Store.trace` — the store after several requests, and what showed on the way

## Main results

* `Store.Exact.perform` — one request keeps the index exact and agrees with the list
* `Store.trace_eq_and_run_exact` — so does every run of requests
-/

namespace Parcel

namespace Store

/-- What can be asked of a store. -/
inductive Request where
  /-- Put the value `n` in place of the first one of its name, or at the end. -/
  | set (n : Named)
  /-- Append the value `n`. -/
  | push (n : Named)
  /-- The first value of the name `key`. -/
  | get (key : String)
  /-- Change the payload of the first value of the name `key`. -/
  | replace (key : String) (value : Value)
  /-- Whether `key` has a value. -/
  | contains (key : String)
  /-- Remove all values of the name `key`. -/
  | remove (key : String)
  /-- Remove all values. -/
  | clear
  /-- Number of values. -/
  | size
  /-- Make the store anew from its own values. -/
  | rebuild

/-- What a store answers. -/
inductive Answer where
  /-- Done. -/
  | done
  /-- A value, if there is one. -/
  | found (n : Option Named)
  /-- Yes or no. -/
  | flag (b : Bool)
  /-- A number. -/
  | count (n : Nat)

/-- One request to a store. -/
def perform (r : Request) (s : Store) : Answer × Store :=
  match r with
  | .set n => (.done, s.set n)
  | .push n => (.done, s.push n)
  | .get key => (.found (s.get? key), s)
  | .replace key value =>
    match s.replace? key value with
    | some s => (.flag true, s)
    | none => (.flag false, s)
  | .contains key => (.flag (s.contains key), s)
  | .remove key => let (s, found) := s.remove key; (.flag found, s)
  | .clear => (.done, s.clear)
  | .size => (.count s.size, s)
  | .rebuild => (.done, .ofList s.policy s.toList)

end Store

namespace Named

open Store (Request Answer)

/-- One request to a plain list, `values`. -/
def perform (r : Request) (values : List Named) : Answer × List Named :=
  match r with
  | .set n => (.done, put n values)
  | .push n => (.done, values ++ [n])
  | .get key => (.found (find? key values), values)
  | .replace key value => (.flag (values.any (·.name == key)), amend key value values)
  | .contains key => (.flag (values.any (·.name == key)), values)
  | .remove key => (.flag (values.any (·.name == key)), values.filter (·.name != key))
  | .clear => (.done, [])
  | .size => (.count values.length, values)
  | .rebuild => (.done, values)

/-- The answers of a plain list to several requests, each with the values after it. -/
def trace : List Request → List Named → List (Answer × List Named)
  | [], _ => []
  | r :: rest, values => perform r values :: trace rest (perform r values).2

end Named

namespace Store

/-- The store after several requests. -/
def run : List Request → Store → Store
  | [], s => s
  | r :: rest, s => run rest (s.perform r).2

/-- The answers of a store to several requests, each with the values after it. -/
def trace : List Request → Store → List (Answer × List Named)
  | [], _ => []
  | r :: rest, s => ((s.perform r).1, (s.perform r).2.toList) :: trace rest (s.perform r).2

/-- The index, if there is one, is exact. -/
def Exact : Store → Prop
  | linear _ => True
  | indexed s => s.Exact

variable {s : Store}

theorem exact_ofList (p : Policy) (values : List Named) : (ofList p values).Exact := by
  cases p with
  | linear => trivial
  | indexed => exact IndexedStore.exact_ofList values

@[simp] theorem toList_ofList (p : Policy) (values : List Named) :
    (ofList p values).toList = values := by
  cases p <;> simp [ofList, toList, LinearStore.toList, LinearStore.ofList, IndexedStore.toList,
    IndexedStore.ofList]

theorem policy_ofList (p : Policy) (values : List Named) : (ofList p values).policy = p := by
  cases p <;> rfl

/-- A value is put where the list has the first one of its name, by `Named.put`. -/
theorem Exact.set (exact : s.Exact) (n : Named) :
    (s.set n).Exact ∧ (s.set n).toList = Named.put n s.toList ∧ (s.set n).policy = s.policy := by
  cases s with
  | linear s =>
    refine ⟨trivial, ?_, rfl⟩
    change (s.set n).toList = Named.put n s.values
    rw [LinearStore.set]
    split
    · next i found => rw [Named.put_eq_set found]; rfl
    · next absent => rw [Named.put_eq_append absent]; rfl
  | indexed s => exact ⟨IndexedStore.Exact.set exact n, IndexedStore.Exact.toList_set exact n, rfl⟩

theorem Exact.push (exact : s.Exact) (n : Named) :
    (s.push n).Exact ∧ (s.push n).toList = s.toList ++ [n] ∧ (s.push n).policy = s.policy := by
  cases s with
  | linear s => exact ⟨trivial, rfl, rfl⟩
  | indexed s => exact ⟨IndexedStore.Exact.push exact n, s.toList_push n, rfl⟩

/-- A lookup of `key` finds the first value of the name. -/
theorem Exact.get?_eq (exact : s.Exact) (key : String) : s.get? key = Named.find? key s.toList := by
  cases s with
  | linear s => rfl
  | indexed s => exact IndexedStore.Exact.get?_eq exact key

theorem Exact.contains_eq (exact : s.Exact) (key : String) :
    s.contains key = s.toList.any (·.name == key) := by
  rw [contains, exact.get?_eq, Named.find?, List.isSome_find?]

/-- The payload of the first value of the name `key` changes, if there is one. -/
theorem Exact.replace? (exact : s.Exact) (key : String) (value : Value) :
    match s.replace? key value with
    | some t => s.toList.any (·.name == key) = true ∧ t.Exact ∧ t.policy = s.policy ∧
        t.toList = Named.amend key value s.toList
    | none => s.toList.any (·.name == key) = false ∧ Named.amend key value s.toList = s.toList := by
  have any_of_some {i : Nat} {values : List Named} (found : Named.position? key values = some i) :
      values.any (·.name == key) = true := by
    rw [← List.findIdx?_isSome, ← Named.position?, found]; rfl
  have any_of_none {values : List Named} (absent : Named.position? key values = none) :
      values.any (·.name == key) = false := by
    rw [← List.findIdx?_isSome, ← Named.position?, absent]; rfl
  cases s with
  | linear s =>
    simp only [Store.replace?, LinearStore.replace?]
    cases found : s.position? key with
    | none => exact ⟨any_of_none found, Named.amend_eq_self found⟩
    | some i => exact ⟨any_of_some found, trivial, rfl, (Named.amend_eq_modify found).symm⟩
  | indexed s =>
    simp only [Store.replace?]
    cases found : s.index[key]? with
    | none =>
      -- the index misses only what is not there
      obtain ⟨missed, same⟩ := IndexedStore.Exact.replace?_eq_none exact value found
      rw [missed]
      exact ⟨any_of_none ((exact key).symm.trans found), same⟩
    | some i =>
      obtain ⟨t, replaced, amended, still⟩ := IndexedStore.Exact.replace exact value found
      rw [replaced]
      exact ⟨any_of_some ((exact key).symm.trans found), still, rfl, amended⟩

/-- Every value of the name `key` is removed, and the flag tells whether there was one. -/
theorem Exact.remove (exact : s.Exact) (key : String) :
    (s.remove key).1.Exact ∧ (s.remove key).1.toList = s.toList.filter (·.name != key) ∧
      (s.remove key).2 = s.toList.any (·.name == key) ∧
      (s.remove key).1.policy = s.policy := by
  cases s with
  | linear s =>
    refine ⟨trivial, rfl, ?_, rfl⟩
    change ((s.values.filter (·.name != key)).length != s.values.length) =
      s.values.any (·.name == key)
    rw [Bool.eq_iff_iff, bne_iff_ne, ne_eq, List.length_filter_eq_length_iff, List.any_eq_true]
    simp
  | indexed s =>
    obtain ⟨still, kept, found⟩ := IndexedStore.Exact.remove exact key
    exact ⟨still, kept, found, rfl⟩

/-- One request keeps the index `Exact`, and its answer and the values are those of the list. -/
theorem Exact.perform (exact : s.Exact) (r : Request) :
    (s.perform r).2.Exact ∧ (s.perform r).2.policy = s.policy ∧
      ((s.perform r).1, (s.perform r).2.toList) = Named.perform r s.toList := by
  cases r with
  | set n =>
    obtain ⟨still, put, policy⟩ := exact.set n
    exact ⟨still, policy, congrArg _ put⟩
  | push n =>
    obtain ⟨still, appended, policy⟩ := exact.push n
    exact ⟨still, policy, congrArg _ appended⟩
  | get key => exact ⟨exact, rfl, by simp [Store.perform, Named.perform, exact.get?_eq]⟩
  | replace key value =>
    have replaced := exact.replace? key value
    simp only [Store.perform, Named.perform]
    split at replaced
    · next t found =>
      obtain ⟨present, still, policy, amended⟩ := replaced
      exact ⟨still, policy, by simp [present, amended]⟩
    · next missed =>
      obtain ⟨absent, same⟩ := replaced
      exact ⟨exact, rfl, by simp [absent, same]⟩
  | contains key => exact ⟨exact, rfl, by simp [Store.perform, Named.perform, exact.contains_eq]⟩
  | remove key =>
    obtain ⟨still, kept, found, policy⟩ := exact.remove key
    exact ⟨still, policy, by simp [Store.perform, Named.perform, kept, found]⟩
  | clear =>
    exact ⟨exact_ofList _ _, policy_ofList _ _,
      by simp [Store.perform, Named.perform, clear, empty]⟩
  | size => exact ⟨exact, rfl, rfl⟩
  | rebuild =>
    exact ⟨exact_ofList _ _, policy_ofList _ _, by simp [Store.perform, Named.perform]⟩

theorem Exact.run (exact : s.Exact) (rs : List Request) :
    (s.run rs).Exact ∧ (s.run rs).policy = s.policy := by
  induction rs generalizing s with
  | nil => exact ⟨exact, rfl⟩
  | cons r rest ih =>
    obtain ⟨still, policy, -⟩ := exact.perform r
    obtain ⟨after, same⟩ := ih still
    exact ⟨after, same.trans policy⟩

theorem Exact.trace_eq (exact : s.Exact) (rs : List Request) :
    s.trace rs = Named.trace rs s.toList := by
  induction rs generalizing s with
  | nil => rfl
  | cons r rest ih =>
    obtain ⟨still, -, agrees⟩ := exact.perform r
    rw [trace, Named.trace, ih still, ← agrees]

/-- Under either policy a store answers and holds what a plain list does, step by step: its `trace`
is that of the list. Under the `indexed` policy the index maps exactly the names present to the
positions of their first values, so that no position it gives is past the end. -/
theorem trace_eq_and_run_exact (values : List Named) (rs : List Request) :
    (∀ p, (ofList p values).trace rs = Named.trace rs values) ∧
      ∃ s, (ofList .indexed values).run rs = indexed s ∧
        (∀ key, s.index[key]? = s.toList.findIdx? (·.name == key)) ∧
        ∀ (key : String) (i : Nat), s.index[key]? = some i → i < s.values.size := by
  refine ⟨fun p => ?_, ?_⟩
  · rw [(exact_ofList p values).trace_eq, toList_ofList]
  · obtain ⟨exact, policy⟩ := (exact_ofList .indexed values).run rs
    generalize (ofList .indexed values).run rs = t at exact policy
    cases t with
    | linear t => cases policy
    | indexed s => exact ⟨s, rfl, exact, fun _ _ => IndexedStore.Exact.lt_size exact⟩

end Store

end Parcel
