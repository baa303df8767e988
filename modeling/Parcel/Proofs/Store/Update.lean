import Parcel.Proofs.Store.Attempt
import Parcel.Proofs.Store.Edit

/-!
# The first value of a name

What is done to the values of other names leaves the first value of a name as it is, wherever it
moves to. A conditional update looks at that value and at no other, and is made exactly when it is
the expected one; several updates are made one after the other, each of them on what the ones
before have left.

## Main definitions

* `Named.first?` — the first value of a name
* `Store.Shows` — a store whose first value of a name is known
* `Store.attempts` — the attempts at the value of a name among several updates

## Main results

* `Store.Shows.set`, `Store.Shows.push`, `Store.Shows.remove`, and the same for many values — other
  names
* `Store.updateIf?_cases` — when an update is made, and what it does
* `Store.Shows.updateIf?`, `Store.Shows.updateAll` — updates are attempts one after the other
-/

namespace Parcel

/-- The first value of a name. -/
def Named.first? (key : String) (values : List Named) : Option Value :=
  (find? key values).map (·.value)

/-! ## Plain lists -/

namespace Named

variable {key : String} {n : Named} {values : List Named}

theorem first?_cons (m : Named) (values : List Named) :
    first? key (m :: values) = if m.name = key then some m.value else first? key values := by
  by_cases same : m.name = key
  · rw [first?, find?, List.find?_cons_of_pos (by simpa using same), if_pos same]
    rfl
  · rw [first?, find?, List.find?_cons_of_neg (by simpa using same), if_neg same]
    rfl

/-- A value of another name changes nothing for the name `key`, wherever it is put. -/
theorem first?_put (other : n.name ≠ key) (values : List Named) :
    first? key (put n values) = first? key values := by
  induction values with
  | nil => simp [put, first?_cons, other]
  | cons m rest ih =>
    rw [put]
    split
    · next same => simp [first?_cons, other, same]
    · simp [first?_cons, ih]

theorem first?_append (other : n.name ≠ key) (values : List Named) :
    first? key (values ++ [n]) = first? key values := by
  induction values with
  | nil => simp [first?_cons, other]
  | cons m rest ih => simp [first?_cons, ih]

theorem first?_filter {removed : String} (other : removed ≠ key) (values : List Named) :
    first? key (values.filter (·.name != removed)) = first? key values := by
  induction values with
  | nil => rfl
  | cons m rest ih =>
    by_cases same : m.name = removed
    · -- a value that is removed has another name
      rw [List.filter_cons_of_neg (by simpa using same), ih, first?_cons, if_neg (same ▸ other)]
    · rw [List.filter_cons_of_pos (by simpa using same), first?_cons, first?_cons, ih]

/-- The payload that changes is the one that is found afterwards. -/
theorem first?_amend (amended : String) (value : Value) (values : List Named) :
    first? key (amend amended value values) =
      if amended = key then (first? key values).map fun _ => value else first? key values := by
  induction values with
  | nil => simp [amend, first?, find?]
  | cons m rest ih =>
    rw [amend]
    by_cases here : m.name = amended
    · by_cases same : amended = key
      · simp [first?_cons, here, same]
      · simp [first?_cons, here, same]
    · by_cases same : amended = key
      · subst same
        simp [first?_cons, here, ih]
      · simp [first?_cons, here, same, ih]

end Named

/-! ## Stores -/

/-- A store with an exact index, whose first value of the name `key` is `v`. -/
structure Store.Shows (key : String) (v : Option Value) (s : Store) : Prop where
  exact : s.Exact
  first : Named.first? key s.toList = v

namespace Store

variable {key : String} {v : Option Value} {s : Store}

theorem Shows.set (shows : s.Shows key v) {n : Named} (other : n.name ≠ key) :
    (s.set n).Shows key v := by
  obtain ⟨exact, put, -⟩ := shows.exact.set n
  exact ⟨exact, by rw [put, Named.first?_put other, shows.first]⟩

theorem Shows.push (shows : s.Shows key v) {n : Named} (other : n.name ≠ key) :
    (s.push n).Shows key v := by
  obtain ⟨exact, appended, -⟩ := shows.exact.push n
  exact ⟨exact, by rw [appended, Named.first?_append other, shows.first]⟩

theorem Shows.remove (shows : s.Shows key v) {removed : String} (other : removed ≠ key) :
    (s.remove removed).1.Shows key v := by
  obtain ⟨exact, kept, -⟩ := shows.exact.remove removed
  exact ⟨exact, by rw [kept, Named.first?_filter other, shows.first]⟩

theorem Shows.setAll (shows : s.Shows key v) {values : List Named}
    (other : ∀ n ∈ values, n.name ≠ key) : (s.setAll values).Shows key v := by
  unfold Store.setAll
  induction values generalizing s with
  | nil => exact shows
  | cons n rest ih =>
    obtain ⟨first, others⟩ := List.forall_mem_cons.1 other
    exact ih (shows.set first) others

theorem Shows.pushAll (shows : s.Shows key v) {values : List Named}
    (other : ∀ n ∈ values, n.name ≠ key) : (s.pushAll values).Shows key v := by
  unfold Store.pushAll
  induction values generalizing s with
  | nil => exact shows
  | cons n rest ih =>
    obtain ⟨first, others⟩ := List.forall_mem_cons.1 other
    exact ih (shows.push first) others

theorem Shows.removeAll (shows : s.Shows key v) {keys : List String} (other : key ∉ keys) :
    (s.removeAll keys).2.Shows key v := by
  unfold Store.removeAll
  -- the count that the loop carries along has no effect on the store
  generalize 0 = count
  induction keys generalizing s count with
  | nil => exact shows
  | cons removed rest ih =>
    rw [List.mem_cons, not_or] at other
    obtain ⟨first, others⟩ := other
    have left := shows.remove (Ne.symm first)
    rw [List.foldl_cons]
    dsimp only
    generalize s.remove removed = outcome at left
    obtain ⟨t, found⟩ := outcome
    cases found <;> exact ih left others _

/-- An update is made exactly when the first value of its name is the expected one, and changes the
payload of that value by `amend`. -/
theorem updateIf?_cases (exact : s.Exact) (u : Update) :
    (∃ x t, Named.first? u.key s.toList = some x ∧ x.equal u.expected = true ∧
        s.updateIf? u = some t ∧ t.Exact ∧ t.toList = Named.amend u.key u.value s.toList) ∨
      ((∀ x ∈ Named.first? u.key s.toList, x.equal u.expected = false) ∧
        s.updateIf? u = none) := by
  have replaced := exact.replace? u.key u.value
  have found : s.updateIf? u = (Named.find? u.key s.toList).bind fun n =>
      if n.value.equal u.expected then s.replace? u.key u.value else none := by
    rw [← exact.get?_eq]
    rfl
  rw [found, Named.first?]
  cases present : Named.find? u.key s.toList with
  | none => exact .inr ⟨nofun, rfl⟩
  | some n =>
    cases expected : n.value.equal u.expected with
    | false =>
      refine .inr ⟨?_, by simp [expected]⟩
      rintro _ ⟨⟩
      exact expected
    | true =>
      -- a value that was found can be replaced
      have named : s.toList.any (·.name == u.key) = true := by
        rw [← List.isSome_find?]
        exact congrArg Option.isSome present
      split at replaced
      · next t made =>
        obtain ⟨-, still, -, amended⟩ := replaced
        exact .inl ⟨n.value, t, rfl, expected, by simp [expected, made], still, amended⟩
      · rw [replaced.1] at named
        cases named

/-- The attempts at the value of `key` among the updates `us` that one client has asked for, of
which `made` tells how they were answered. -/
def attempts {Client : Type} (key : String) (client : Client) (us : List Update)
    (made : List Bool) : List (Attempt Client) :=
  ((us.zip made).filter (·.1.key == key)).map fun (u, made) => ⟨client, u, made⟩

theorem attempts_cons {Client : Type} (client : Client) (u : Update) (us : List Update) (b : Bool)
    (made : List Bool) : attempts key client (u :: us) (b :: made) =
      attempts key client [u] [b] ++ attempts key client us made := by
  by_cases same : u.key = key
  · simp [attempts, same]
  · simp [attempts, same]

/-- An update is an attempt at the first value of the name `key` if it is for that name, and nothing
to it otherwise. -/
theorem Shows.updateIf? {Client : Type} (shows : s.Shows key v) (client : Client) (u : Update) :
    ∃ w, ((s.updateIf? u).getD s).Shows key w ∧
      Sequential v (attempts key client [u] [(s.updateIf? u).isSome]) w := by
  by_cases same : u.key = key
  · subst same
    have attempted (made : Bool) :
        attempts u.key client [u] [made] = [⟨client, u, made⟩] := by simp [attempts]
    rw [attempted]
    obtain ⟨x, t, here, expected, made, exact, amended⟩ | ⟨other, refused⟩ :=
      updateIf?_cases shows.exact u
    · rw [shows.first] at here
      subst here
      rw [made]
      refine ⟨some u.value, ⟨exact, ?_⟩, .made expected (.nil _)⟩
      change Named.first? u.key t.toList = _
      rw [amended, Named.first?_amend, if_pos rfl, shows.first]
      rfl
    · rw [shows.first] at other
      rw [refused]
      exact ⟨v, shows, .refused other (.nil v)⟩
  · -- an update of another name is no attempt, and does not touch the value whether made or not
    have attempted (made : Bool) : attempts key client [u] [made] = [] := by simp [attempts, same]
    rw [attempted]
    refine ⟨v, ?_, .nil v⟩
    obtain ⟨x, t, -, -, made, exact, amended⟩ | ⟨-, refused⟩ := updateIf?_cases shows.exact u
    · rw [made]
      refine ⟨exact, ?_⟩
      change Named.first? key t.toList = v
      rw [amended, Named.first?_amend, if_neg same, shows.first]
    · rw [refused]
      exact shows

theorem updateAll_cons (u : Update) (us : List Update) (s : Store) :
    updateAll (u :: us) s =
      ((s.updateIf? u).isSome :: (updateAll us ((s.updateIf? u).getD s)).1,
        (updateAll us ((s.updateIf? u).getD s)).2) := by
  rw [Store.updateAll]
  cases s.updateIf? u <;> rfl

/-- Several updates `us` are attempts one after the other. -/
theorem Shows.updateAll {Client : Type} (shows : s.Shows key v) (client : Client)
    (us : List Update) : ∃ w, (updateAll us s).2.Shows key w ∧
      Sequential v (attempts key client us (updateAll us s).1) w := by
  induction us generalizing s v with
  | nil => exact ⟨v, shows, .nil v⟩
  | cons u us ih =>
    obtain ⟨x, left, attempted⟩ := shows.updateIf? client u
    obtain ⟨w, after, later⟩ := ih left
    rw [updateAll_cons, attempts_cons]
    exact ⟨w, after, attempted.append later⟩

/-- Updates of which none is `made` leave the first value of a name as it is. -/
theorem eq_of_unmade {Client : Type} {w : Option Value} {client : Client} {us : List Update}
    {made : List Bool} (attempted : Sequential v (attempts key client us made) w)
    (unmade : made.any id = false) : w = v := by
  have none : Attempt.successes (attempts key client us made) = [] := by
    rw [Attempt.successes, List.map_eq_nil_iff, List.filter_eq_nil_iff]
    intro a mem
    obtain ⟨⟨u, b⟩, inside, rfl⟩ := List.mem_map.1 mem
    have answered : b ∈ made := (List.of_mem_zip (List.mem_filter.1 inside).1).2
    exact List.any_eq_false.1 unmade b answered
  rw [attempted.eq_latest, none]
  rfl

end Store

end Parcel
