import Parcel.Proofs.Container.Batch
import Parcel.Proofs.Container.Contents
import Parcel.Proofs.Store.Update
import Parcel.Proofs.Value.Equality

/-!
# Updating what was read

A client reads a value and then asks for an update that expects just this value. The update finds
the value that was read, under both policies and whether or not it had to be decoded, so it is the
comparison alone that decides: the update is made unless some payload inside the value denotes no
number. An update that is not made leaves everything as it is, the kept text included.

## Main definitions

* `Parcel.ReflexiveOn` — a symmetric and transitive comparison, reflexive where it can be

## Main results

* `Container.updateIf_seen` — an update on a container that has been read
* `Container.equality_and_update_of_read` — the laws of equality, and what they make of updates
-/

namespace Parcel

/-- A symmetric and transitive comparison. What has the property `P` is equal to itself, and nothing
else is equal to anything. -/
structure ReflexiveOn {α : Type} (equal : α → α → Bool) (P : α → Prop) : Prop where
  symm : ∀ a b, equal a b = true → equal b a = true
  trans : ∀ a b c, equal a b = true → equal b c = true → equal a c = true
  self_iff : ∀ a, equal a a = true ↔ P a

theorem Value.reflexiveOn_equal : ReflexiveOn Value.equal Value.Numeric :=
  ⟨fun _ _ => equal_symm, fun _ _ _ => equal_trans, fun _ => equal_self_iff⟩

theorem Document.reflexiveOn_equal : ReflexiveOn Document.equal Document.Numeric :=
  ⟨fun _ _ => equal_symm, fun _ _ _ => equal_trans, fun _ => equal_self_iff⟩

namespace Container

variable {c : Container} {key : String} {n : Named} {values : List Named} {store : Store}

/-- What `updateIf` does to a store that is reached at once. -/
theorem updateIf_eq (reached : c.access = (.ok store, c)) (u : Update) : c.updateIf u =
    ((store.updateIf? u).isSome, ((store.updateIf? u).map c.holding).getD c) := by
  rw [updateIf, visit_eq (congrArg Prod.fst reached), congrArg Prod.snd reached]
  cases store.updateIf? u <;> rfl

/-- A container that `getValue` has read reaches a store of its values at once. -/
theorem exists_access_seen (key : String) (faithful : c.Faithful)
    (decodable : c.contents = .ok values) :
    ∃ store, (c.getValue key).2.access = (.ok store, (c.getValue key).2) ∧ store.Exact ∧
      store.toList = values := by
  have looked : (c.getValue key).2 = c.access.2 := query_access _ c
  obtain ⟨store, reached, same⟩ := exists_store_of_contents decodable
  refine ⟨store, ?_, (faithful.access.2 store reached).1, same⟩
  rw [looked, access_access]
  exact Prod.ext reached rfl

/-- After a value has been read, an update of its name finds this value. It is made when the value
is the `expected` one, and the values are then the same but for this one. -/
theorem updateIf_seen (faithful : c.Faithful) (decodable : c.contents = .ok values)
    (read : (c.getValue key).1 = some n) (expected new : Value) :
    let seen := (c.getValue key).2
    let outcome := seen.updateIf ⟨key, expected, new⟩
    outcome.1 = n.value.equal expected ∧
      (outcome.1 = false → outcome.2 = seen) ∧
      (outcome.1 = true → outcome.2.contents = .ok (Named.amend key new values)) := by
  intro seen outcome
  obtain ⟨store, reached, exact, rfl⟩ := exists_access_seen key faithful decodable
  have updated : outcome = _ := updateIf_eq reached ⟨key, expected, new⟩
  -- the update looks up what the getter has looked up
  have first : Named.first? key store.toList = some n.value := by
    rw [getValue_eq faithful decodable] at read
    rw [Named.first?, read]
    rfl
  obtain ⟨x, made, here, same, taken, -, amended⟩ | ⟨other, refused⟩ :=
    Store.updateIf?_cases exact ⟨key, expected, new⟩
  · obtain rfl : n.value = x := Option.some.inj (first.symm.trans here)
    rw [updated, taken]
    exact ⟨same.symm, fun never => (by cases never), fun _ => congrArg Except.ok amended⟩
  · rw [updated, refused]
    exact ⟨(other _ first).symm, fun _ => rfl, fun never => (by cases never)⟩

/-- Structural equality is symmetric and transitive, and a value or document is equal to itself just
when it is `Numeric`: no payload inside it fails to denote a number. So an update that expects what
was just read is made just in that case; the value of the name becomes `new` and no other value
changes. An update that is not made changes nothing. -/
theorem equality_and_update_of_read [Memory] :
    ReflexiveOn Value.equal Value.Numeric ∧ ReflexiveOn Document.equal Document.Numeric ∧
      ∀ {c : Container} {values : List Named} {key : String} {n : Named} (new : Value),
        c.Reachable → c.contents = .ok values → (c.getValue key).1 = some n →
          let seen := (c.getValue key).2
          let outcome := seen.updateIf ⟨key, n.value, new⟩
          (outcome.1 = true ↔ n.value.Numeric) ∧
            (outcome.1 = false → outcome.2 = seen ∧ c.Kept outcome.2) ∧
            (outcome.1 = true → outcome.2.contents = .ok (Named.amend key new values)) := by
  refine ⟨Value.reflexiveOn_equal, Document.reflexiveOn_equal, ?_⟩
  intro c values key n new reachable decodable read seen outcome
  obtain ⟨made, refused, amended⟩ :=
    updateIf_seen reachable.faithful decodable read n.value new
  refine ⟨?_, ?_, amended⟩
  · rw [← Value.equal_self_iff, ← made]
  · intro unmade
    have same : outcome.2 = seen := refused unmade
    have looked : c.Kept seen := kept_query _ c
    exact ⟨same, same ▸ looked⟩

/-- A text with two values of one name, the first of which denotes no number, and an ordinary
value. -/
def dubiousText : Bytes := Utf8.encode "@data=\x7b[k,11,nan];[k,4,1];[m,4,2];\x7d"

/-- A container that has deferred the values of that text. -/
def dubious : Container := ((new .indexed).parseLazy dubiousText).2

open scoped Memory.Plenty

/-- An update of the first name is refused although nothing has happened in between, and one of the
other name is made. -/
theorem equality_and_update_of_read_dubious :
    dubious.Reachable ∧ ∃ values n m, dubious.contents = .ok values ∧
      (dubious.getValue "k").1 = some n ∧ (dubious.getValue "m").1 = some m ∧
      ¬n.value.Numeric ∧ m.value.Numeric ∧
      ((dubious.getValue "k").2.updateIf ⟨"k", n.value, .null⟩).1 = false ∧
      ((dubious.getValue "k").2.updateIf ⟨"k", n.value, .null⟩).2 = (dubious.getValue "k").2 ∧
      ((dubious.getValue "m").2.updateIf ⟨"m", m.value, .null⟩).1 = true := by
  have reachable : dubious.Reachable :=
    .step (s := ⟨.new .indexed, .direct 0, .empty "."⟩) (.ask (.parseLazy dubiousText))
      (.new .indexed)
  have named : dubious.contents.map (fun values => values.map fun n => (n.name, n.value.isNaN)) =
      .ok [("k", true), ("k", false), ("m", false)] := by
    decide +kernel
  obtain ⟨values, decodable, shape⟩ := Except.exists_of_map_eq_ok named
  have first : (dubious.getValue "k").1.map (fun n => (n.value.kind, n.value.isNaN)) =
      some (.double, true) := by
    decide +kernel
  have second : (dubious.getValue "m").1.map (fun n => (n.value.kind, n.value.isNaN)) =
      some (.integer .int, false) := by
    decide +kernel
  obtain ⟨n, read, shown⟩ := Option.map_eq_some_iff.1 first
  obtain ⟨m, read', shown'⟩ := Option.map_eq_some_iff.1 second
  obtain ⟨-, absent⟩ := Prod.mk.inj shown
  obtain ⟨kind, number⟩ := Prod.mk.inj shown'
  -- neither value is computed any further: that it is a number or none is all the law asks for
  have doubtful : ¬n.value.Numeric := fun numeric =>
    Bool.false_ne_true ((numeric 0 n.value (.here _)).symm.trans absent)
  have plain : m.value.Numeric :=
    (Value.every_iff_of_flat ⟨by rw [kind]; exact nofun, by rw [kind]; exact nofun⟩).2 number
  obtain ⟨-, -, law⟩ := equality_and_update_of_read
  obtain ⟨made, unchanged, -⟩ := law .null reachable decodable read
  obtain ⟨made', -, -⟩ := law .null reachable decodable read'
  have refused := Bool.eq_false_iff.2 fun yes => doubtful (made.1 yes)
  exact ⟨reachable, values, n, m, decodable, read, read', doubtful, plain, refused,
    (unchanged refused).1, made'.2 plain⟩

end Container

end Parcel
