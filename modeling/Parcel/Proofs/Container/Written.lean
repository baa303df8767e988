import Parcel.Proofs.Codec.Stability
import Parcel.Proofs.Container.Contents
import Parcel.Proofs.Delimited.Places
import Parcel.Proofs.Delimited.Reencoding

/-!
# Views of a written text

A text that was written from a document has an entry for each of its values, and the entry lies in
the text where the bytes of the value were written. What comes out of the text is written like what
went in, so a container that keeps the text shows, for every name, the bytes that the value of that
name is written as. Payloads are not escaped and may hold any delimiter but the end of a pair; the
offsets stay right whatever is in them or in the header values before them.

## Main definitions

* `Entry.StandsIn` — an entry lies in an input where a named value was written
* `Container.Displays` — the views of a container are those of a text, and go with its values

## Main results

* `Delimited.exists_index_of_encode` — the entries of a written text
* `Container.Faithful.displays` — a container that keeps a written text displays it
* `Container.displays_of_encode` — so does every container that has taken it over
-/

namespace Parcel

open Delimited (Entry)

/-! ## Entries of a written text -/

namespace Delimited

variable {s : Bytes} {d : Document} {e : Entry} {n m : Named}

/-- An entry lies in the input `s` where the named value `n` was written. -/
structure Entry.StandsIn (s : Bytes) (e : Entry) (n : Named) : Prop extends e.Stands n where
  name_liesIn : e.name.LiesIn s
  value_liesIn : e.value.LiesIn s

/-- An entry that `Stands` for a value stands for what comes out of the text format, too: both are
written alike. -/
theorem Entry.Stands.received (stands : e.Stands n) : e.Stands n.received where
  name := stands.name
  kind := stands.kind.trans (Value.kind_received n.value).symm
  value := (encodeValue_received n.value n.name).trans stands.value

theorem Entry.StandsIn.received (stands : e.StandsIn s n) : e.StandsIn s n.received :=
  ⟨stands.toStands.received, stands.name_liesIn, stands.value_liesIn⟩

/-- Whatever `materialize` makes of a written value, it is the value as it comes out of the text
format. -/
theorem Entry.Stands.eq_received_of_materialize (stands : e.Stands n)
    (read : e.materialize 0 = .ok m) : m = n.received := by
  rw [Entry.materialize, readWith_stands stands] at read
  obtain ⟨v, decoded, rfl⟩ := Except.exists_of_map_eq_ok read
  replace decoded : decodeWithin (levelsAt 0) n.value.kind e.value.bytes = .ok v := decoded
  -- a value that is nested too deeply is not read as anything
  by_cases within : n.value.Within (levelsAt 0)
  · rw [(readsWithin _).ok stands.value within] at decoded
    rw [← Except.ok.inj decoded]
    rfl
  · rw [(readsWithin _).error stands.value within] at decoded
    cases decoded

/-- A written text has an entry for each value, which `StandsIn` it where the value was written. -/
theorem exists_index_of_encode (written : Codec.encode .text d = .ok s) :
    ∃ entries, index s = .ok entries ∧ List.Forall₂ (Entry.StandsIn s) entries d.values := by
  obtain ⟨absent, writable, rfl⟩ := encode_eq_of_iff.1 (Draft.finish_eq_ok_iff.1 written)
  obtain ⟨entries, stand, scanned⟩ := scan_document absent writable
  have lie := liesIn_of_scan scanned
  refine ⟨entries, ?_, ?_⟩
  · rw [index, scanned]
    rfl
  · have standing : List.Forall₂ Entry.Stands entries d.values := stand.flip
    refine ((List.forall₂_and_left _ _).2 ⟨lie, standing⟩).imp ?_
    rintro e n ⟨⟨named, valued⟩, stands⟩
    exact ⟨stands, named, valued⟩

end Delimited

/-- What a view of a written value is read as, `materialize` puts under the name of the value. -/
theorem View.materialize_of_read {v : View} {n : Named} {w : Value} (stands : v.Stands n)
    (read : v.read = .ok w) : v.materialize 0 = .ok ⟨n.name, w⟩ := by
  have decoded : Delimited.decodeValue v.kind v.value.bytes 0 = .ok w :=
    Except.eq_ok_of_mapError_eq_ok read
  rw [stands.kind] at decoded
  rw [Entry.materialize, Delimited.readWith_stands stands]
  exact congrArg (Except.map _) decoded

/-! ## Containers that keep a written text -/

namespace Container

/-- A container displays the text `s` that a document was written as: its views lie in the text
where the values of the document were written, and what is read through them or found under their
names is written like that. -/
structure Displays (c : Container) (s : Bytes) (d : Document) : Prop where
  views : List.Forall₂ (Entry.StandsIn s) c.views.1 d.values
  read : ∀ v ∈ c.views.1, ∀ w, v.read = .ok w →
    Delimited.encodeValue v.nameText w = .of v.value.bytes
  keyed : ∀ key n, (c.getValue key).1 = some n →
    ∃ v, (c.view? key).1 = some v ∧ v.StandsIn s n ∧ v.read = .ok n.value

variable {c : Container} {raw : RawText} {d : Document} {s : Bytes}

/-- A value that `getValue` finds is the first one of its name in the store. -/
theorem exists_of_getValue {key : String} {n : Named} (found : (c.getValue key).1 = some n) :
    ∃ store, c.access.1 = .ok store ∧ store.get? key = some n := by
  cases reached : c.access.1 with
  | ok store =>
    refine ⟨store, rfl, ?_⟩
    rw [← found]
    exact (queryOr_eq none (Store.get? key) reached).symm
  | error e =>
    -- without a store nothing is found
    unfold Container.getValue Container.queryOr Container.query Container.visit at found
    generalize c.access = r at reached found
    obtain ⟨answer, c'⟩ := r
    cases reached
    cases found

/-- Where a text is kept, a value that `getValue` finds is what the view of its name is read as. -/
theorem Faithful.exists_view_of_getValue (faithful : c.Faithful) (kept : c.raw? = some raw)
    {key : String} {n : Named} (found : (c.getValue key).1 = some n) :
    ∃ v, (c.view? key).1 = some v ∧ v ∈ c.views.1 ∧ v.materialize 0 = .ok n := by
  obtain ⟨store, reached, got⟩ := exists_of_getValue found
  obtain ⟨exact, values⟩ := faithful.access.2 store reached
  -- the store was filled from the entries in order, so the first of a name is the first there too
  obtain ⟨whole, decoded, same⟩ :=
    Except.exists_of_map_eq_ok ((RawText.values_eq raw).symm.trans (values raw kept))
  obtain ⟨entries, scanned, read⟩ := RawText.exists_entries_of_decode decoded
  rw [same] at read
  have looked := view?_eq kept scanned key
  have pair := Entry.rel_find? key read
  rw [← exact.get?_eq, got, ← looked] at pair
  cases shown : (c.view? key).1 with
  | none =>
    rw [shown] at pair
    cases pair
  | some v =>
    rw [shown] at pair
    cases pair with | some material =>
    refine ⟨v, rfl, ?_, material⟩
    rw [views_eq kept scanned]
    exact List.mem_of_find?_eq_some (looked.symm.trans shown)

/-- A container that keeps a written text `Displays` it. -/
theorem Faithful.displays (faithful : c.Faithful) (kept : c.raw? = some raw)
    (written : Codec.encode .text d = .ok raw.bytes) : c.Displays raw.bytes d := by
  obtain ⟨entries, indexed, stand⟩ := Delimited.exists_index_of_encode written
  have scanned : raw.entries = .ok entries := by
    rw [RawText.entries_eq, indexed]
    rfl
  have viewed : c.views.1 = entries := views_eq kept scanned
  rw [← viewed] at stand
  have standing : ∀ v ∈ c.views.1, ∃ n, v.StandsIn raw.bytes n := by
    intro v mem
    obtain ⟨n, -, stands⟩ := Delimited.exists_mem_of_forall₂ stand.flip v mem
    exact ⟨n, stands⟩
  refine ⟨stand, ?_, ?_⟩
  · -- what is read from an entry comes from its value, and is written like it
    intro v mem w read
    obtain ⟨n, stands⟩ := standing v mem
    have material := View.materialize_of_read stands.toStands read
    have value := stands.toStands.received.value
    rw [← stands.toStands.eq_received_of_materialize material] at value
    rw [(Entry.shows_of_materialize material).name]
    exact value
  · intro key n found
    obtain ⟨v, shown, mem, material⟩ := faithful.exists_view_of_getValue kept found
    obtain ⟨m, stands⟩ := standing v mem
    obtain rfl := stands.toStands.eq_received_of_materialize material
    exact ⟨v, shown, stands.received, (Entry.shows_of_materialize material).value⟩

/-- A written text is taken over with its values as they come out of the text format, `d.received`.
-/
theorem exists_deserialize_of_encode (written : Codec.encode .text d = .ok s)
    (taken : (c.deserialize s).1 = .ok ()) :
    Codec.decode .text s = .ok d.received ∧ (c.deserialize s).2 = c.holdingDocument d.received
      (if c.config.retainsRaw then some (.of s) else none) := by
  have detected : Format.detect? s = some .text := by
    obtain ⟨-, -, rfl⟩ := Delimited.encode_eq_of_iff.1 (Draft.finish_eq_ok_iff.1 written)
    exact Delimited.detect?_document _
  simp only [Container.deserialize, detected] at taken ⊢
  obtain ⟨e, refused⟩ | ⟨read, -, decoded, received⟩ := deserializeAs_cases s .text c
  · rw [refused] at taken
    cases taken
  · obtain rfl := Delimited.eq_received_of_decode written decoded
    refine ⟨decoded, ?_⟩
    rw [received]
    simp

/-- The entries of a written text `s` are where its values were written, whatever is in them. A
container that takes the text over and keeps it `Displays` it, with a view for every name that it
has a value of; and a container displays it for as long as it keeps it, whether or not the values
have been decoded. -/
theorem displays_of_encode [Memory] (written : Codec.encode .text d = .ok s) :
    (∃ entries, Delimited.index s = .ok entries ∧
      List.Forall₂ (Entry.StandsIn s) entries d.values) ∧
    (∀ c : Container, (c.deserialize s).1 = .ok () →
      if c.config.retainsRaw then
        (c.deserialize s).2.Displays s d ∧ ∀ key, Option.Rel (Entry.StandsIn s)
          ((c.deserialize s).2.view? key).1 ((c.deserialize s).2.getValue key).1
      else (c.deserialize s).2.raw? = none) ∧
    ∀ c : Container, c.Reachable → ∀ raw, c.raw? = some raw → raw.bytes = s → c.Displays s d := by
  refine ⟨Delimited.exists_index_of_encode written, fun c taken => ?_, ?_⟩
  · obtain ⟨decoded, result⟩ := exists_deserialize_of_encode written taken
    rw [result]
    split
    · have faithful : (c.holdingDocument d.received (some (.of s))).Faithful :=
        faithful_holdingDocument c decoded fun r isRaw => ⟨rfl, (Option.some.inj isRaw).symm⟩
      refine ⟨faithful.displays rfl written, fun key => ?_⟩
      obtain ⟨entries, indexed, stand⟩ := Delimited.exists_index_of_encode written
      -- what is received is written like what was sent, so it stands in the same places
      have standing : List.Forall₂ (Entry.StandsIn s) entries d.received.values := by
        rw [Document.received_eq, List.forall₂_map_right_iff]
        exact stand.imp fun _ _ stands => stands.received
      have scanned : (RawText.of s).entries = .ok entries := by
        rw [RawText.entries_eq, RawText.of, indexed]
        rfl
      have held := contents_holdingDocument d.received (some (.of s)) c
      rw [view?_eq rfl scanned, getValue_eq faithful held]
      exact Entry.rel_find?_of_forall₂ (fun _ _ stands => stands.name) standing key
    · rfl
  · rintro c reachable raw kept rfl
    exact reachable.faithful.displays kept written

/-- A document with delimiters of the text format in a header value and in payloads, some of them
at the end. -/
def unescapedDocument : Document :=
  ⟨{ sourceId := "a]", messageType := "@data=\x7b[" },
    [⟨"k", .string "\x7d,[x]"⟩, ⟨"raw", .bytes [0xFF, 0x5D]⟩,
      ⟨"inner", .container ⟨{ sourceId := "];" }, [⟨"k", .string "]"⟩]⟩⟩, ⟨"k", .null⟩]⟩

open scoped Memory.Plenty

theorem displays_of_encode_unescapedDocument :
    ∃ s, Codec.encode .text unescapedDocument = .ok s ∧
      (∃ entries, Delimited.index s = .ok entries ∧
        List.Forall₂ (Entry.StandsIn s) entries unescapedDocument.values) ∧
      ((new .indexed).deserialize s).1 = .ok () ∧
      ((new .indexed).deserialize s).2.Displays s unescapedDocument := by
  have taken : (Codec.encode .text unescapedDocument >>= fun s =>
      ((new .indexed).deserialize s).1) = .ok () := by
    decide +kernel
  obtain ⟨s, written, taken⟩ := Except.exists_of_bind_eq_ok taken
  obtain ⟨entries, received, -⟩ := displays_of_encode written
  exact ⟨s, written, entries, taken, (received (new .indexed) taken).1⟩

end Container

end Parcel
