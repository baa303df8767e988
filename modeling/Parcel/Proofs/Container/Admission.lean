import Parcel.Proofs.Codec.Detection
import Parcel.Proofs.Container.Contents
import Parcel.Schema.Admission

/-!
# Admitting an input

An input is taken over and then validated. Either it cannot be taken over, and the container is
left as it was; or the container holds the document of the input, nothing of what it held before,
and the answer tells whether that document conforms to the schema. Whether the old values had been
decoded, or could be, makes no difference: they are replaced before anything asks for them.

## Main definitions

* `Container.Holds` — all that a container can be asked is answered from one document

## Main results

* `Container.deserialize_cases` — an input is refused, or taken over as a whole
* `Container.deserializeValidated_eq` — validating is asking what was taken over
* `Container.deserializeValidated_outcome` — the three outcomes
-/

namespace Parcel

/-! ## Codes -/

theorem Error.code_ne_zero (e : Error) : e.code ≠ 0 := by
  cases e <;> exact Nat.succ_ne_zero _

theorem Constraint.code_ne_zero (constraint : Constraint) : constraint.code ≠ 0 := by
  cases constraint <;> exact Nat.succ_ne_zero _

/-- A rejection has a code, unless it is `invalid` without violations. -/
theorem Rejection.code_ne_zero {r : Rejection} (some : r ≠ .invalid []) : r.code ≠ 0 := by
  rcases r with e | _ | ⟨v, violations⟩
  · exact e.code_ne_zero
  · exact absurd rfl some
  · exact v.constraint.code_ne_zero

namespace Container

/-- A container holds the document `d`: its header and its values are those of the document, however
they are asked for, and a text that it keeps is one of the document. -/
structure Holds (c : Container) (d : Document) : Prop where
  header : c.header = d.header
  snapshot : c.snapshot.1 = .ok d
  values : c.values.1 = d.values
  getValue : ∀ key, (c.getValue key).1 = Named.find? key d.values
  materialized : c.isMaterialized = true
  raw : ∀ r, c.raw? = some r → Codec.decode .text r.bytes = .ok d

variable {c : Container} {s : Bytes} {f : Format} {d : Document} {raw : Option RawText}

/-! ## Taking over -/

/-- The container with the contents of a document `Holds` that document. -/
theorem holds_holdingDocument (c : Container) (decoded : Codec.decode f s = .ok d)
    (kept : ∀ r ∈ raw, f = .text ∧ r = .of s) : (c.holdingDocument d raw).Holds d := by
  have faithful := faithful_holdingDocument c decoded kept
  have held := contents_holdingDocument d raw c
  refine ⟨rfl, ?_, ?_, getValue_eq faithful held, rfl, ?_⟩
  · obtain ⟨header, values⟩ := d
    rw [snapshot_eq, held]
    rfl
  · rw [values_eq, held]
    rfl
  · intro r isRaw
    obtain ⟨rfl, rfl⟩ := kept r isRaw
    exact decoded

/-- An input leaves the container as it is, or the container `Holds` the document that `decodeAny`
finds in it. -/
theorem deserialize_cases (s : Bytes) (c : Container) :
    (∃ e, c.deserialize s = (.error e, c)) ∨
      ∃ f d, Codec.decodeAny s = .ok (f, d) ∧ (c.deserialize s).1 = .ok () ∧
        (c.deserialize s).2.Holds d := by
  unfold Container.deserialize
  cases found : Format.detect? s with
  | none => exact .inl ⟨_, rfl⟩
  | some f =>
    obtain ⟨e, refused⟩ | ⟨d, -, decoded, received⟩ := deserializeAs_cases s f c
    · exact .inl ⟨e, refused⟩
    · refine .inr ⟨f, d, Codec.decodeAny_eq_ok_iff.2 ⟨found, decoded⟩, ?_⟩
      simp only [received, true_and]
      refine holds_holdingDocument c decoded fun r kept => ?_
      -- the input is kept only if it is a text
      split at kept
      · next retains =>
        cases kept
        exact ⟨retains.1, rfl⟩
      · cases kept

/-! ## Validating -/

/-- The violations that `validateAll` finds are those of the document that the container holds. -/
theorem Holds.validateAll (holds : c.Holds d) (schema : Schema) :
    (c.validateAll schema).1 = schema.validate d := by
  have answered := holds.snapshot
  unfold Container.validateAll
  generalize c.snapshot = outcome at answered
  obtain ⟨answer, c'⟩ := outcome
  cases answered
  rfl

/-- A container whose values are decoded is not changed by a question. -/
theorem access_of_isMaterialized (materialized : c.isMaterialized = true) : c.access.2 = c := by
  obtain ⟨header, policy, content, config⟩ := c
  cases content with
  | held store raw => rfl
  | deferred raw => cases materialized

/-- What `deserialize` takes over is validated and left as it is. -/
theorem deserializeValidated_eq (schema : Schema) (holds : (c.deserialize s).2.Holds d)
    (taken : (c.deserialize s).1 = .ok ()) : c.deserializeValidated schema s =
      (if schema.validate d = [] then .ok () else .error (.invalid (schema.validate d)),
        (c.deserialize s).2) := by
  have violations := holds.validateAll schema
  have same : ((c.deserialize s).2.validateAll schema).2 = (c.deserialize s).2 := by
    rw [validateAll_access, access_of_isMaterialized holds.materialized]
  unfold deserializeValidated
  generalize c.deserialize s = outcome at taken violations same
  obtain ⟨answer, c'⟩ := outcome
  cases taken
  dsimp only at violations same ⊢
  generalize c'.validateAll schema = validated at violations same
  obtain ⟨found, c''⟩ := validated
  dsimp only at violations same
  subst violations same
  cases schema.validate d <;> rfl

/-- An input is refused as `undecodable` exactly when `deserialize` cannot take it over, and then
the container is what it was. Otherwise the container `Holds` the document of the input, and the
input is admitted if that document has no violations and rejected with all of them if it has some.
So every rejection has a code. -/
theorem deserializeValidated_outcome (schema : Schema) (s : Bytes) (c : Container) :
    (∀ e, (c.deserializeValidated schema s).1 = .error (.undecodable e) ↔
      (c.deserialize s).1 = .error e) ∧
    (∀ e, (c.deserialize s).1 = .error e → (c.deserializeValidated schema s).2 = c) ∧
    ((c.deserialize s).1 = .ok () → ∃ f d, Codec.decodeAny s = .ok (f, d) ∧
      (c.deserializeValidated schema s).2.Holds d ∧
      (c.deserializeValidated schema s).1 =
        if schema.validate d = [] then .ok () else .error (.invalid (schema.validate d))) ∧
    ∀ r, (c.deserializeValidated schema s).1 = .error r → r.code ≠ 0 := by
  obtain ⟨e, refused⟩ | ⟨f, d, decoded, taken, holds⟩ := deserialize_cases s c
  · -- nothing is taken over, so nothing is validated
    have outcome : c.deserializeValidated schema s = (.error (.undecodable e), c) := by
      rw [deserializeValidated, refused]
    rw [outcome, refused]
    refine ⟨fun e' => ?_, fun _ _ => rfl, nofun, ?_⟩
    · exact ⟨by rintro ⟨⟩; rfl, by rintro ⟨⟩; rfl⟩
    · rintro r ⟨⟩
      exact Rejection.code_ne_zero nofun
  · -- what was held before is gone, so only the document is there to be validated
    rw [deserializeValidated_eq schema holds taken, taken]
    dsimp only
    by_cases none : schema.validate d = []
    · rw [if_pos none]
      exact ⟨fun e => ⟨nofun, nofun⟩, nofun, fun _ => ⟨f, d, decoded, holds, by rw [if_pos none]⟩,
        nofun⟩
    · rw [if_neg none]
      refine ⟨fun e => ⟨nofun, nofun⟩, nofun,
        fun _ => ⟨f, d, decoded, holds, by rw [if_neg none]⟩, ?_⟩
      rintro r ⟨⟩
      exact Rejection.code_ne_zero fun same => none (Rejection.invalid.inj same)

/-- A text that conforms, one that lacks the field, and one that breaks off. -/
example :
    let schema : Schema := ⟨[⟨"a", .bool, true, {}, none⟩]⟩
    let code (text : String) : Nat :=
      match ((new .indexed).deserializeValidated schema (Utf8.encode text)).1 with
      | .ok () => 0
      | .error r => r.code
    (code "@data=\x7b[a,1,1];\x7d", code "@data=\x7b[b,1,1];\x7d", code "@data=\x7b[a,1,1") =
      (0, 310, 201) := by
  decide +kernel

end Container

end Parcel
