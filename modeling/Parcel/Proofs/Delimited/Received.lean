import Parcel.Proofs.Delimited.Accepted
import Parcel.Proofs.Delimited.RoundTrip
import Parcel.Proofs.Header

/-!
# What the text format leaves out

What comes out of the text format differs from what went in by the routing identifiers of untyped
headers, at every level of nesting, and by nothing else than the pattern of what denotes no number.
So a document comes out as it went in exactly when no untyped header in it has such an identifier.

## Main definitions

* `Document.quieted` — a document with one pattern for everything that denotes no number
* `Document.KeepsRouting` — no untyped header in a document names an end

## Main results

* `Document.received_eq_quieted_iff` — when the text format leaves nothing out
* `Delimited.eq_received_of_decode` — whatever is read back is the document as it comes out
-/

namespace Parcel

/-- Nothing stays off the wire, `onWire`, exactly when there is nothing to keep off. -/
theorem Header.onWire_eq_iff {h : Header} : h.onWire = h ↔
    (h.isUntyped → ∀ field : Field, field.isRouting → h.get field = "") := by
  cases untyped : h.isUntyped with
  | false => simp [onWire, untyped]
  | true =>
    rw [onWire, if_pos untyped]
    constructor
    · intro same _ field routing
      rw [← same]
      cases field with
      | messageType | version => cases routing
      | _ => rfl
    · intro blank
      have source := blank rfl .sourceId rfl
      have sourceSub := blank rfl .sourceSubId rfl
      have target := blank rfl .targetId rfl
      have targetSub := blank rfl .targetSubId rfl
      obtain ⟨_, _, _, _, _, _⟩ := h
      simp only [get] at source sourceSub target targetSub
      subst source sourceSub target targetSub
      rfl

/-! ## One pattern for what denotes no number -/

mutual

/-- A value with one pattern for everything that denotes no number. -/
def Value.quieted : Value → Value
  | .float bits => .float (Binary.single.quieted bits.toNat).toUInt32
  | .double bits => .double (Binary.double.quieted bits.toNat).toUInt64
  | .container d => .container d.quieted
  | .array items => .array (Value.quietedItems items)
  | v => v

/-- Values with one pattern for everything that denotes no number. -/
def Value.quietedItems : List Value → List Value
  | [] => []
  | v :: rest => v.quieted :: Value.quietedItems rest

/-- Named values with one pattern for everything that denotes no number. -/
def Named.quietedAll : List Named → List Named
  | [] => []
  | ⟨name, v⟩ :: rest => ⟨name, v.quieted⟩ :: Named.quietedAll rest

/-- A document with one pattern for everything that denotes no number. -/
def Document.quieted : Document → Document
  | ⟨header, values⟩ => ⟨header, Named.quietedAll values⟩

end

/-! ## What is left out -/

/-- No untyped header in the document, or in one that is nested in it, names an end. -/
def Document.KeepsRouting (d : Document) : Prop :=
  ∀ e, d.HasPart e → e.header.isUntyped → ∀ field : Field, field.isRouting → e.header.get field = ""

/-- Every header inside a value goes on the wire as a whole. -/
def Value.WholeOnWire (v : Value) : Prop := ∀ e, v.HasPart e → e.header.onWire = e.header

theorem Value.wholeOnWire_container_iff {d : Document} : (container d).WholeOnWire ↔
    d.header.onWire = d.header ∧ ∀ n ∈ d.values, n.value.WholeOnWire := by
  constructor
  · intro whole
    refine ⟨whole d (Document.hasPart_iff.2 (.inl rfl)), fun n mem e inside => ?_⟩
    exact whole e (Document.hasPart_iff.2 (.inr ⟨n, mem, inside⟩))
  · rintro ⟨here, inside⟩ e part
    rcases Document.hasPart_iff.1 part with rfl | ⟨n, mem, nested⟩
    · exact here
    · exact inside n mem e nested

theorem Value.wholeOnWire_array_iff {items : List Value} :
    (array items).WholeOnWire ↔ ∀ v ∈ items, v.WholeOnWire := by
  constructor
  · intro whole v mem e inside
    exact whole e (Value.hasPart_array_iff.2 ⟨v, mem, inside⟩)
  · intro whole e part
    obtain ⟨v, mem, inside⟩ := Value.hasPart_array_iff.1 part
    exact whole v mem e inside

/-- Only containers and arrays have anything nested in them. -/
theorem Value.wholeOnWire_of_flat {v : Value} (flat : v.kind ≠ .container ∧ v.kind ≠ .array) :
    v.WholeOnWire := by
  rintro e ⟨_, _ | _ | _⟩
  · exact absurd rfl flat.1
  · exact absurd rfl flat.1
  · exact absurd rfl flat.2

mutual

/-- Nothing is left out of a value exactly when it is `WholeOnWire`: every header inside it goes on
the wire as a whole. -/
theorem Value.received_eq_quieted_iff (v : Value) : v.received = v.quieted ↔ v.WholeOnWire := by
  match v with
  | .container d =>
    obtain ⟨header, values⟩ := d
    have inside := Named.receivedAll_eq_quietedAll_iff values
    rw [Value.wholeOnWire_container_iff, ← inside]
    simp [Value.received, Value.quieted, Document.received, Document.quieted]
  | .array items =>
    have inside := Value.receivedItems_eq_quietedItems_iff items
    rw [Value.wholeOnWire_array_iff, ← inside]
    simp [Value.received, Value.quieted]
  | .null | .bool _ | .integer _ | .float _ | .double _ | .string _ | .bytes _ =>
    exact iff_of_true rfl (Value.wholeOnWire_of_flat ⟨nofun, nofun⟩)

theorem Value.receivedItems_eq_quietedItems_iff (items : List Value) :
    Value.receivedItems items = Value.quietedItems items ↔ ∀ v ∈ items, v.WholeOnWire := by
  match items with
  | [] => exact iff_of_true rfl nofun
  | v :: rest =>
    have first := Value.received_eq_quieted_iff v
    have others := Value.receivedItems_eq_quietedItems_iff rest
    rw [Value.receivedItems, Value.quietedItems, List.cons.injEq, first, others,
      List.forall_mem_cons]

theorem Named.receivedAll_eq_quietedAll_iff (values : List Named) :
    Named.receivedAll values = Named.quietedAll values ↔ ∀ n ∈ values, n.value.WholeOnWire := by
  match values with
  | [] => exact iff_of_true rfl nofun
  | ⟨name, v⟩ :: rest =>
    have first := Value.received_eq_quieted_iff v
    have others := Named.receivedAll_eq_quietedAll_iff rest
    rw [Named.receivedAll, Named.quietedAll, List.cons.injEq, others, List.forall_mem_cons, ← first]
    simp

end

/-- The text format leaves nothing out of a document exactly when the document `KeepsRouting`: no
untyped header in it names an end. -/
theorem Document.received_eq_quieted_iff {d : Document} :
    d.received = d.quieted ↔ d.KeepsRouting := by
  have whole := Value.received_eq_quieted_iff (.container d)
  rw [Value.received, Value.quieted, Value.container.injEq] at whole
  rw [whole]
  constructor
  · intro keeps e part
    exact Header.onWire_eq_iff.1 (keeps e part)
  · intro keeps e part
    exact Header.onWire_eq_iff.2 (keeps e part)

/-! ## Reading back -/

/-- Whatever is read back from what was written is the document as it comes out of the format,
`d.received`. -/
theorem Delimited.eq_received_of_decode {d read : Document} {s : Bytes}
    (written : Codec.encode .text d = .ok s) (decoded : Codec.decode .text s = .ok read) :
    read = d.received := by
  have draft : encode d = .of s := Draft.finish_eq_ok_iff.1 written
  replace decoded : decodeWith (decodeWithin (levelsAt 0)) s = .ok read :=
    Except.eq_ok_of_mapError_eq_ok decoded
  by_cases within : ∀ n ∈ d.values, n.value.Within (levelsAt 0)
  · rw [decodeWith_eq_ok (readsWithin _) draft within] at decoded
    exact (Except.ok.inj decoded).symm
  · -- what is nested too deeply is not read back at all
    have deep : ∃ n ∈ d.values, ¬n.value.Within (levelsAt 0) := by simpa using within
    rw [decodeWith_eq_error (readsWithin _) draft deep] at decoded
    cases decoded

end Parcel
