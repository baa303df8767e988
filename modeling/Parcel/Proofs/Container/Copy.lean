import Parcel.Proofs.Delimited.Received
import Parcel.Proofs.Pool.Independence

/-!
# What a copy has

A copy is made by writing the container in the text format and reading it back, so it has what the
text format carries. The text format keeps the routing identifiers of untyped containers off the
wire, which are new containers until they are given a type. A copy of one that has identifiers is
made without complaint, and does not have them.

## Main definitions

* `Container.whole` — what a copy is asked to have

## Main results

* `Container.exists_copied` — a copy is a document that was written and read back
* `Container.copy_faithful_iff` — when a copy has what it was asked to have
* `Container.header_of_copy_addressed` — an identifier that is lost
-/

namespace Parcel.Container

variable {c made : Container} {pool : Pool} {withValues : Bool}

/-- What a copy is asked to have: the header, and the values if `withValues`. -/
def whole (withValues : Bool) (c : Container) : Document :=
  ⟨c.header, if withValues then c.values.1 else []⟩

/-- The document that a container shows. -/
def shown (c : Container) : Document := ⟨c.header, c.values.1⟩

theorem shown_ofDocument (policy : Policy) (d : Document) (config : Config) :
    shown { ofDocument policy d with config } = d := by
  obtain ⟨header, values⟩ := d
  exact congrArg (Document.mk header) (Store.toList_ofList policy values)

/-- A copy is what the text format makes of `whole`, the document that it is asked to have. -/
theorem exists_copied [Memory] (clean : pool.Clean)
    (copied : (c.copy withValues pool).1 = .ok made) :
    ∃ s d, Codec.encode .text (c.whole withValues) = .ok s ∧ Codec.decode .text s = .ok d ∧
      made = { ofDocument c.policy d with config := c.config } := by
  rw [copy_eq clean] at copied
  obtain ⟨taken, asked, copied⟩ := Except.exists_of_bind_eq_ok copied
  obtain ⟨-, -, copied⟩ := Except.exists_of_bind_eq_ok copied
  obtain ⟨s, encoded, copied⟩ := Except.exists_of_bind_eq_ok copied
  obtain ⟨d, decoded, rfl⟩ := Except.exists_of_map_eq_ok copied
  -- the snapshot is the header with the values, which could be decoded
  rw [c.snapshot_eq] at asked
  obtain ⟨values, contents, rfl⟩ := Except.exists_of_map_eq_ok asked
  have held := c.values_eq
  rw [contents] at held
  have requested : (if withValues then (⟨c.header, values⟩ : Document) else ⟨c.header, []⟩) =
      c.whole withValues := by
    rw [whole, held]
    cases withValues <;> rfl
  rw [requested] at encoded
  exact ⟨s, d, encoded, decoded, rfl⟩

/-- A copy has what comes out of the text format, under the same policy and settings, and copying
looks at the container and does not change it. The copy has what it was asked to have, up to the
pattern of what denotes no number, exactly when `KeepsRouting` holds: no untyped header in there
names an end. -/
theorem copy_faithful_iff [Memory] (shared : pool.Reachable)
    (copied : (c.copy withValues pool).1 = .ok made) :
    made.shown = (c.whole withValues).received ∧
      (made.shown = (c.whole withValues).quieted ↔ (c.whole withValues).KeepsRouting) ∧
      made.policy = c.policy ∧ made.config = c.config ∧
      c.Kept (c.copy withValues pool).2.1 := by
  obtain ⟨s, d, written, decoded, rfl⟩ := exists_copied shared.clean copied
  have shows : shown { ofDocument c.policy d with config := c.config } =
      (c.whole withValues).received := by
    rw [shown_ofDocument]
    exact Delimited.eq_received_of_decode written decoded
  refine ⟨shows, ?_, rfl, rfl, kept_copy withValues c pool⟩
  rw [shows]
  exact Document.received_eq_quieted_iff

/-- A typed container in another one, with a value that denotes no number. -/
def parcelled : Container :=
  ofDocument .indexed ⟨{ sourceId := "a", messageType := "m" },
    [⟨"c", .container ⟨{ targetId := "b", messageType := "n" },
      [⟨"x", .double 0xFFF8000000000001⟩]⟩⟩]⟩

open scoped Memory.Plenty

theorem copy_faithful_parcelled :
    ∃ made, (parcelled.copy true (.direct 0)).1 = .ok made ∧
      made.shown = (parcelled.whole true).quieted ∧
      parcelled.Kept (parcelled.copy true (.direct 0)).2.1 := by
  have succeeds : (parcelled.copy true (.direct 0)).1.map (·.header) = .ok parcelled.header := by
    decide +kernel
  obtain ⟨made, copied, -⟩ := Except.exists_of_map_eq_ok succeeds
  have keeps : (parcelled.whole true).KeepsRouting := Document.received_eq_quieted_iff.1 rfl
  obtain ⟨-, faithful, -, -, kept⟩ := copy_faithful_iff .direct copied
  exact ⟨made, copied, faithful.2 keeps, kept⟩

/-- A container that names its source and has no type yet. -/
def addressed : Container := ofDocument .linear ⟨{ sourceId := "a" }, []⟩

/-- The copies of `addressed` do not name the source. -/
theorem header_of_copy_addressed :
    addressed.Reachable ∧ addressed.header.sourceId = "a" ∧
      (∃ made, (addressed.copy false (.direct 0)).1 = .ok made ∧ made.header.sourceId = "") ∧
      ∃ made, (addressed.copy true (.direct 0)).1 = .ok made ∧ made.header.sourceId = "" := by
  have headless : (addressed.copy false (.direct 0)).1.map (·.header.sourceId) = .ok "" := by
    decide +kernel
  have whole : (addressed.copy true (.direct 0)).1.map (·.header.sourceId) = .ok "" := by
    decide +kernel
  exact ⟨.ofDocument _ _, rfl, Except.exists_of_map_eq_ok headless,
    Except.exists_of_map_eq_ok whole⟩

end Parcel.Container
