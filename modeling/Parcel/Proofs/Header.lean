import Mathlib.Data.List.Nodup
import Parcel.Header

/-!
# Headers on the wire

The fields that go on the wire are different fields, and setting them one after the other in a
header that has none of them gives the header without what stays off the wire.

## Main results

* `Header.setAll_wireFields` — the fields on the wire give the header on the wire
* `Header.setAll_perm` — in whatever order they are set
* `Header.nodup_wireFields` — no field is on the wire twice
* `Header.fresh_tail` — so each of them is new to a reader that remembers the ones before
-/

namespace Parcel

theorem Field.ofName?_name (field : Field) : Field.ofName? field.name = some field := by
  cases field <;> decide

namespace Header

/-- Setting a field changes that field alone. -/
theorem get_set (h : Header) (field other : Field) (value : String) :
    (h.set field value).get other = if other = field then value else h.get other := by
  cases field <;> cases other <;> rfl

/-- Different fields can be set in either order. -/
theorem set_comm {field other : Field} (different : field ≠ other) (h : Header)
    (value value' : String) :
    (h.set field value).set other value' = (h.set other value').set field value := by
  cases field <;> cases other <;> first | rfl | exact absurd rfl different

/-- Setting different fields gives the same header in whatever order, which `Perm` says here. -/
theorem setAll_perm {fields others : List (Field × String)}
    (distinct : (fields.map Prod.fst).Nodup) (same : fields.Perm others) (h : Header) :
    h.setAll fields = h.setAll others := by
  refine same.foldl_eq' (fun p mem q mem' h => ?_) h
  by_cases eq : p.1 = q.1
  · -- a field that is there only once is set to one value
    obtain rfl := List.inj_on_of_nodup_map distinct mem mem' eq
    rfl
  · exact set_comm eq h p.2 q.2

/-- Setting the fields on the wire in a new header gives `onWire`. -/
theorem setAll_wireFields (h : Header) : setAll {} h.wireFields = h.onWire := by
  -- the identifiers are on the wire exactly when the message has a type
  cases untyped : h.isUntyped with
  | true => simp [wireFields, onWire, untyped, setAll, Field.all, Field.isRouting, set, get]
  | false => simp [wireFields, onWire, untyped, setAll, Field.all, Field.isRouting, set, get]

/-- No field is on the wire twice. -/
theorem nodup_wireFields (h : Header) : (h.wireFields.map Prod.fst).Nodup := by
  have fields : h.wireFields.map Prod.fst =
      Field.all.filter fun f => !(h.isUntyped && f.isRouting) := by
    rw [wireFields, List.map_map]
    exact List.map_id _
  rw [fields]
  exact List.Pairwise.filter _ (by decide)

/-- Setting a field that was not set before leaves different fields that were not set before. -/
theorem fresh_tail {p : Field × String} {fields : List (Field × String)} {seen : List Field}
    (distinct : ((p :: fields).map Prod.fst).Nodup) (fresh : ∀ q ∈ p :: fields, q.1 ∉ seen) :
    seen.contains p.1 = false ∧ (fields.map Prod.fst).Nodup ∧
      ∀ q ∈ fields, q.1 ∉ p.1 :: seen := by
  obtain ⟨first, distinct⟩ := List.nodup_cons.1 distinct
  obtain ⟨unseen, fresh⟩ := List.forall_mem_cons.1 fresh
  refine ⟨by simpa using unseen, distinct, fun q mem again => ?_⟩
  rcases List.mem_cons.1 again with same | again
  · exact first (List.mem_map.2 ⟨q, mem, same⟩)
  · exact fresh q mem again

end Header

end Parcel
