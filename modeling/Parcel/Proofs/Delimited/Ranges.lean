import Parcel.Proofs.Delimited.Domain
import Parcel.Proofs.Delimited.Layout
import Parcel.Proofs.Delimited.Literal
import Parcel.Proofs.Delimited.Places

/-!
# The pairs of an input

Whatever an input is, every entry that a scan finds is a pair that stands in it: an opening bracket,
a name, a type tag and a payload, with commas between them, and the end of the pair. The offsets of
the entry are those of the name and of the payload, and the tag is the number of its kind. Entries
come in the order of their pairs, and no two pairs overlap.

Only the delimiters are certain. A name may have brackets in it, a payload may end in one, and
neither has to be text.

## Main definitions

* `Delimited.TagNames` — a type tag, with the white space around it
* `Delimited.Entry.PairIn` — an entry is a pair of an input
* `Delimited.Entry.Precedes` — a pair ends before another one begins

## Main results

* `Delimited.tagNames_of_read` — what is read as a tag is the number of the kind
* `Delimited.pairIn_of_scan`, `Delimited.precedes_of_scan` — the entries of a scan
-/

namespace Parcel

/-! ## Type tags -/

theorem Kind.tag_of_ofTag? {n : Nat} {kind : Kind} (found : Kind.ofTag? n = some kind) :
    kind.tag = n := by
  -- the kinds are listed in the order of their tags
  have listed : ∀ i, (Kind.all.get i).tag = i := by decide
  obtain ⟨bound, rfl⟩ := List.getElem?_eq_some_iff.1 found
  exact listed ⟨n, bound⟩

namespace Delimited

/-- A type tag names a kind: it is the number of the kind in decimal, with white space around it. -/
inductive TagNames (kind : Kind) : Bytes → Prop where
  /-- The number of the kind between two runs of white space, `before` and `after`. -/
  | padded (before after : Gap) {cs : List Char} (number : Decimal.Denotes false cs kind.tag) :
    TagNames kind (before.bytes ++ (Utf8.encodeChars cs ++ after.bytes))

theorem exists_gap_skipBlanks (s : Bytes) : ∃ w : Gap, s = w.bytes ++ Bytes.skipBlanks s :=
  ⟨⟨s.takeWhile Bytes.isBlank, List.all_takeWhile⟩, List.takeWhile_append_dropWhile.symm⟩

/-- What `trimBlanks` takes off is white space. -/
theorem exists_gaps_trimBlanks (s : Bytes) :
    ∃ before after : Gap, s = before.bytes ++ (Bytes.trimBlanks s ++ after.bytes) := by
  obtain ⟨before, front⟩ := exists_gap_skipBlanks s
  -- the other end is trimmed in the same way, from what is left, backwards
  obtain ⟨⟨w, blank⟩, back⟩ := exists_gap_skipBlanks (Bytes.skipBlanks s).reverse
  have blank' : w.reverse.all Bytes.isBlank := by rwa [List.all_reverse]
  refine ⟨before, ⟨w.reverse, blank'⟩, ?_⟩
  calc s = before.bytes ++ (Bytes.skipBlanks s).reverse.reverse := by
        rw [List.reverse_reverse, ← front]
    _ = before.bytes ++ (Bytes.trimBlanks s ++ w.reverse) := by
        rw [back, List.reverse_append]
        rfl

/-- What the scanner reads as the tag of a kind `TagNames` that kind: it is its number. -/
theorem tagNames_of_read {kind : Kind} {tag : Bytes} {t : String}
    (trimmed : text "type tag" (Bytes.trimBlanks tag) = .ok t)
    (read : (Decimal.natural? t.toList).bind Kind.ofTag? = some kind) : TagNames kind tag := by
  obtain ⟨n, number, found⟩ := Option.bind_eq_some_iff.1 read
  have denotes : Decimal.Denotes false t.toList kind.tag := by
    apply Decimal.natural?_eq_some_iff_denotes.1
    rw [number, Kind.tag_of_ofTag? found]
    rfl
  obtain ⟨before, after, shape⟩ := exists_gaps_trimBlanks tag
  rw [shape, text_eq_ok_iff.1 trimmed]
  exact .padded before after denotes

/-! ## Pairs -/

/-- An entry is a pair of the input `s`, with the given `tag` and the given bytes before and after
it. -/
structure Entry.PairIn (e : Entry) (s before tag after : Bytes) : Prop where
  /-- The pair has a name, a tag and a payload, each with its delimiter behind it. -/
  input : s = before ++ Bytes.ofChar '[' :: (e.name.bytes ++ Bytes.ofChar ',' ::
    (tag ++ Bytes.ofChar ',' :: (e.value.bytes ++ (terminator ++ after))))
  /-- The name starts behind the bracket. -/
  name : e.name.start = before.length + 1
  /-- The payload starts behind the comma that ends the tag. -/
  value : e.value.start = e.name.stop + 1 + tag.length + 1
  /-- There is a name. -/
  named : e.name.bytes ≠ []
  /-- The comma behind the name is the first one. -/
  comma : Bytes.ofChar ',' ∉ e.name.bytes
  /-- The tag names the kind. -/
  tag : TagNames e.kind tag
  /-- The end of the pair is the first one behind the tag: there is no `terminator` in the payload.
  -/
  ends : ¬terminator <:+: e.value.bytes

/-- The pair of the entry `e` ends before the pair of `f` begins, which is at the bracket in front
of its name. -/
def Entry.Precedes (e f : Entry) : Prop := e.value.stop + terminator.length < f.name.start

variable {s : Bytes} {found : Scan} {e f : Entry} {c d next : Cursor}

theorem exists_pairIn_of_finds (finds : valueReader.Finds ⟨0, s⟩ e next) :
    ∃ before tag after, e.PairIn s before tag after := by
  obtain ⟨offset, rest, ⟨before, shape, offset_eq⟩, read⟩ := finds
  obtain ⟨tag, span, t, trimmed, named⟩ := pairSpan_of_valuePair read
  have sound := sound_of_valuePair read
  have behind : e.name.start = offset + 1 := span.name
  have inside : rest = _ := span.rest
  dsimp only at shape offset_eq
  refine ⟨before, tag, next.rest, ?_, ?_, span.value, sound.named, sound.comma,
    tagNames_of_read trimmed named, hasTerminator_eq_false_iff.1 sound.ends⟩
  · rw [shape, ← inside]
  · rw [behind, offset_eq, Nat.zero_add]

/-- A pair that is found behind another one begins where that one has ended, or later: the first
entry `Precedes` the second. -/
theorem precedes_of_finds (first : valueReader.Finds c e d) (second : valueReader.Finds d f next) :
    e.Precedes f := by
  obtain ⟨_, _, -, here⟩ := first
  obtain ⟨offset, rest, ⟨x, -, offset_eq⟩, there⟩ := second
  obtain ⟨_, span, -⟩ := pairSpan_of_valuePair here
  obtain ⟨_, span', -⟩ := pairSpan_of_valuePair there
  have start : f.name.start = offset + 1 := span'.name
  have stop : d.offset = e.value.stop + 2 := span.next
  have size : terminator.length = 2 := by rw [terminator_eq]; rfl
  dsimp only at offset_eq
  rw [Entry.Precedes]
  omega

/-- Every entry that a `scan` finds is a pair of the input. -/
theorem pairIn_of_scan (scanned : scan s = .ok found) :
    ∀ e ∈ found.entries, ∃ before tag after, e.PairIn s before tag after := by
  intro e mem
  obtain ⟨next, finds⟩ := exists_finds_of_scan scanned e mem
  exact exists_pairIn_of_finds finds

/-- The entries of a `scan` come in the order of their pairs, and the pairs do not overlap. -/
theorem precedes_of_scan (scanned : scan s = .ok found) :
    found.entries.Pairwise Entry.Precedes := by
  obtain ⟨last, run⟩ := exists_run_of_scan scanned
  apply (run.pairwise leadsTo_of_valuePair).imp
  rintro e f ⟨here, there, next, first, second⟩
  exact precedes_of_finds first second

end Delimited

end Parcel
