import Parcel.Codec
import Parcel.Container.Raw
import Parcel.Proofs.Delimited.Accepted

/-!
# A kept text is its bytes

Having the entries of a kept text at hand saves a scan and changes no answer: entries, values and
views depend on the bytes alone, and the values are those that decoding the whole text gives.

## Main results

* `RawText.entries_eq`, `RawText.values_eq` — what a kept text says, from its bytes
* `RawText.exists_entries_of_decode` — the entries of a text that can be decoded
-/

namespace Parcel.RawText

open Delimited (Entry)

variable {r r' : RawText}

theorem entries_eq (r : RawText) :
    r.entries = (Delimited.index r.bytes).mapError (·.error) := by
  obtain ⟨bytes, _ | ⟨entries, indexed⟩⟩ := r
  · rfl
  · exact (congrArg (Except.mapError _) indexed).symm

theorem entries_congr (same : r.bytes = r'.bytes) : r.entries = r'.entries := by
  rw [entries_eq, entries_eq, same]

theorem bytes_indexed (r : RawText) : r.indexed.bytes = r.bytes := by
  unfold indexed
  split
  · rfl
  · split <;> rfl

/-- Errors may be translated entry by entry or at the end of `mapM`. -/
theorem mapM_mapError {ε ε' α β : Type} (read : α → Except ε β) (translate : ε → ε')
    (as : List α) :
    as.mapM (fun a => (read a).mapError translate) = (as.mapM read).mapError translate := by
  induction as with
  | nil => rfl
  | cons a as ih =>
    rw [List.mapM_cons, List.mapM_cons, ih]
    cases read a with
    | error e => rfl
    | ok b => cases as.mapM read <;> rfl

/-- The values of a kept text are those of the document that `decode` finds in it. -/
theorem values_eq (r : RawText) :
    r.values = (Codec.decode .text r.bytes).map (·.values) := by
  have parts : Codec.decode .text r.bytes =
      ((Delimited.scan r.bytes).bind fun found =>
        (found.entries.mapM (Entry.materialize · 0)).bind fun values =>
          .ok (Document.mk found.header values)).mapError (·.error) := rfl
  rw [values, entries_eq, Delimited.index, parts]
  cases Delimited.scan r.bytes with
  | error fault => rfl
  | ok found =>
    change found.entries.mapM (fun e => (Entry.materialize e 0).mapError _) =
      (((found.entries.mapM (Entry.materialize · 0)).bind _).mapError _).map _
    rw [mapM_mapError]
    cases found.entries.mapM (Entry.materialize · 0) <;> rfl

/-- A text that can be decoded has `entries`, and they are read as the values. -/
theorem exists_entries_of_decode {d : Document} (decoded : Codec.decode .text r.bytes = .ok d) :
    ∃ entries, r.entries = .ok entries ∧
      entries.mapM (fun e => e.materialize 0) = .ok d.values := by
  obtain ⟨entries, scanned, read⟩ :=
    Delimited.exists_scan_of_decode (Except.eq_ok_of_mapError_eq_ok decoded)
  refine ⟨entries, ?_, read⟩
  rw [entries_eq, Delimited.index, scanned]
  rfl

theorem values_congr (same : r.bytes = r'.bytes) : r.values = r'.values := by
  rw [values_eq, values_eq, same]

theorem view?_congr (key : String) (same : r.bytes = r'.bytes) : r.view? key = r'.view? key := by
  rw [view?, view?, entries_congr same]

theorem views_congr (same : r.bytes = r'.bytes) : r.views = r'.views := by
  rw [views, views, entries_congr same]

end Parcel.RawText
