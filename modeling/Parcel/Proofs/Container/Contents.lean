import Parcel.Proofs.Container.Refusal
import Parcel.Proofs.Container.Views

/-!
# What a container holds

The values of a container are those of its store, or those that the deferred text decodes to. Where
they can be decoded, every operation reaches a store with these values, and a question to the store
is a question about the values.

## Main results

* `Container.map_toList_access` — the store that is reached has the values
* `Container.exists_visit_eq` — an operation on the store of the values
* `Container.snapshot_eq`, `Container.values_eq`, `Container.getValue_eq` — questions
-/

namespace Parcel.Container

variable {c : Container} {α : Type} {values : List Named}

/-- The store that `access` reaches has the values of `contents`. -/
theorem map_toList_access (c : Container) : c.access.1.map Store.toList = c.contents := by
  obtain ⟨header, policy, content, config⟩ := c
  cases content with
  | held store raw => rfl
  | deferred raw =>
    have same : raw.indexed.values = raw.values := RawText.values_congr (RawText.bytes_indexed raw)
    cases read : raw.values with
    | error e =>
      simp only [access, contents, same, read]
      rfl
    | ok values =>
      simp only [access, contents, same, read, Except.map, Store.toList_ofList]

theorem contents_holdingDocument (d : Document) (raw : Option RawText) (c : Container) :
    (c.holdingDocument d raw).contents = .ok d.values :=
  congrArg Except.ok (Store.toList_ofList c.policy d.values)

/-- Where the values can be decoded, a store with these values is reached. -/
theorem exists_store_of_contents (held : c.contents = .ok values) :
    ∃ store, c.access.1 = .ok store ∧ store.toList = values := by
  rw [← map_toList_access] at held
  exact Except.exists_of_map_eq_ok held

/-- Where they cannot, none is reached. -/
theorem access_eq_error {e : Error} (fails : c.contents = .error e) : c.access.1 = .error e := by
  rw [← map_toList_access] at fails
  cases reached : c.access.1 with
  | ok store =>
    rw [reached] at fails
    cases fails
  | error e' =>
    rw [reached] at fails
    cases fails
    rfl

theorem visit_eq {store : Store} (reached : c.access.1 = .ok store)
    (f : Store → Except Error α × Option Store) :
    c.visit f = ((f store).1, ((f store).2.map c.holding).getD c.access.2) := by
  have holding := fun made => holding_access c made
  unfold visit
  generalize c.access = r at reached holding
  obtain ⟨answer, d⟩ := r
  cases reached
  dsimp only
  generalize f store = outcome
  obtain ⟨result, made⟩ := outcome
  cases made with
  | none => rfl
  | some made => exact congrArg _ (holding made)

/-- The store is not reached. -/
theorem visit_eq_of_error {e : Error} (refused : c.access.1 = .error e)
    (f : Store → Except Error α × Option Store) : c.visit f = (.error e, c.access.2) := by
  unfold visit
  generalize c.access = r at refused
  obtain ⟨answer, d⟩ := r
  cases refused
  rfl

/-- An operation `f` on the store is one on a store of the `values`, and the index of that store is
`Exact`. -/
theorem exists_visit_eq (faithful : c.Faithful) (held : c.contents = .ok values)
    (f : Store → Except Error α × Option Store) :
    ∃ store, store.toList = values ∧ store.Exact ∧
      c.visit f = ((f store).1, ((f store).2.map c.holding).getD c.access.2) := by
  obtain ⟨store, reached, same⟩ := exists_store_of_contents held
  exact ⟨store, same, (faithful.access.2 store reached).1, visit_eq reached f⟩

/-! ## Questions -/

/-- The snapshot is the header with `contents`. -/
theorem snapshot_eq (c : Container) : c.snapshot.1 = c.contents.map (Document.mk c.header ·) := by
  rw [← map_toList_access, snapshot, query, visit]
  generalize c.access = r
  obtain ⟨answer, d⟩ := r
  cases answer <;> rfl

theorem values_eq (c : Container) : c.values.1 = c.contents.toOption.getD [] := by
  rw [← map_toList_access, values, queryOr, query, visit]
  generalize c.access = r
  obtain ⟨answer, d⟩ := r
  cases answer <;> rfl

/-- The value that `getValue` finds is the first one of its name among the `values`. -/
theorem getValue_eq (faithful : c.Faithful) (held : c.contents = .ok values) (key : String) :
    (c.getValue key).1 = Named.find? key values := by
  obtain ⟨store, reached, same⟩ := exists_store_of_contents held
  have exact := (faithful.access.2 store reached).1
  rw [← same, ← exact.get?_eq]
  exact queryOr_eq none (Store.get? key) reached

end Parcel.Container
