import Parcel.Proofs.Container.Raw
import Parcel.Proofs.Delimited.Ranges

/-!
# Cutting in bounds

An entry can be kept as a kind and two ranges, and its bytes cut out of the text again whenever they
are asked for. A cut that goes beyond the text has no result, so a reader that works in this way may
have none. It always has one: the ranges that a scan finds lie in the text that was scanned, and so
do those that are found in the payloads of nested containers and arrays. What is read by ranges is
what is read from the entries themselves, for every input.

## Main definitions

* `Slice.cut?` — what a text has at the range of a slice
* `Parcel.Cutting` — a reading that cuts ranges out of texts
* `Cutting.value`, `Cutting.document` — values and documents read by ranges
* `RawText.cutView?` — a view looked for by the range of its name
* `Delimited.Entry.InBounds` — whatever is cut for an entry is there

## Main results

* `Cutting.value_eq`, `Cutting.document_eq`, `RawText.cutView?_eq` — reading by ranges is reading
* `Delimited.index_inBounds` — the pairs of an input, in order and in bounds
-/

namespace Parcel

open Delimited (Entry Fault Scan text unhex decodeValue decodeWith decodeWithin)

/-! ## Cutting -/

/-- What the text `s` has at the range of a slice: nothing if the range is out of order or goes
beyond the end. Of the slice itself only the two offsets are used. -/
def Slice.cut? (slice : Slice) (s : Bytes) : Option Bytes :=
  if slice.start ≤ slice.stop ∧ slice.stop ≤ s.length then some (s.extract slice.start slice.stop)
  else none

theorem Slice.LiesIn.cut?_eq {slice : Slice} {s : Bytes} (lies : slice.LiesIn s) :
    slice.cut? s = some slice.bytes := by
  have ordered : slice.start ≤ slice.stop := Nat.le_add_right _ _
  rw [Slice.cut?, if_pos ⟨ordered, lies.stop_le⟩, lies.extract]

/-- A reading that cuts ranges out of texts. It has no result, not even a fault, when a range was
out of bounds. -/
abbrev Cutting (α : Type) := ExceptT Fault Option α

namespace Cutting

variable {α β : Type}

/-- A reading in which nothing is cut. -/
def of (x : Except Fault α) : Cutting α := ExceptT.mk (some x)

/-- The bytes of a text at the range of a slice. -/
def cut (s : Bytes) (slice : Slice) : Cutting Bytes := ExceptT.lift (slice.cut? s)

/-- The value of an entry of the text `s`, by ranges. -/
def entryValue (readValue : Kind → Bytes → Cutting Value) (s : Bytes) (e : Entry) :
    Cutting Value := do
  let raw ← cut s e.value
  readValue e.kind raw

/-- The named value of an entry of a text, by ranges. -/
def entryNamed (readValue : Kind → Bytes → Cutting Value) (s : Bytes) (e : Entry) :
    Cutting Named := do
  let raw ← cut s e.name
  let name ← of (text "value name" raw)
  let value ← entryValue readValue s e
  return ⟨name, value⟩

/-- A document, by the ranges of its entries in `s`. -/
def documentWith (readValue : Kind → Bytes → Cutting Value) (s : Bytes) : Cutting Document := do
  let scan ← of (Delimited.scan s)
  let values ← scan.entries.mapM (entryNamed readValue s)
  return ⟨scan.header, values⟩

/-- A value of a kind, with an allowance of levels. What is nested in it is scanned in turn, and cut
out of its own payload. -/
def valueWithin : Nat → Kind → Bytes → Cutting Value
  | 0, _, _ => of (.error .tooDeep)
  | levels + 1, .container, raw => do
    let inner ← of (unhex .container raw)
    let d ← documentWith (valueWithin levels) inner
    return .container d
  | levels + 1, .array, raw => do
    let inner ← of (unhex .array raw)
    let scan ← of (Delimited.scan inner)
    let items ← scan.entries.mapM (entryValue (valueWithin levels) inner)
    return .array items
  | levels + 1, kind, raw => of (decodeWithin (levels + 1) kind raw)

/-- A value of a kind that stands inside `depth` containers and arrays. -/
def value (kind : Kind) (raw : Bytes) (depth : Nat) : Cutting Value :=
  valueWithin (Delimited.levelsAt depth) kind raw

/-- A document. -/
def document (s : Bytes) : Cutting Document := documentWith (fun kind raw => value kind raw 0) s

/-! ## Cutting and reading -/

/-- One reading after the other is cut as `of` their composition, when neither cuts anything. -/
theorem of_bind (x : Except Fault α) {f : α → Cutting β} {g : α → Except Fault β}
    (same : ∀ a, x = .ok a → f a = of (g a)) : (of x >>= f) = of (x >>= g) := by
  cases x with
  | error fault => rfl
  | ok a => exact same a rfl

theorem of_bind_pure (x : Except Fault α) (f : α → β) :
    (of x >>= fun a => pure (f a)) = of (x >>= fun a => pure (f a)) :=
  of_bind x fun _ _ => rfl

/-- What `LiesIn` a text can be cut out of it. -/
theorem cut_bind {s : Bytes} {slice : Slice} (lies : slice.LiesIn s) (f : Bytes → Cutting α) :
    (cut s slice >>= f) = f slice.bytes := by
  rw [cut, lies.cut?_eq]
  rfl

theorem mapM_of {as : List α} {f : α → Cutting β} {g : α → Except Fault β}
    (same : ∀ a ∈ as, f a = of (g a)) : as.mapM f = of (as.mapM g) := by
  induction as with
  | nil => rfl
  | cons a as ih =>
    obtain ⟨first, others⟩ := List.forall_mem_cons.1 same
    rw [List.mapM_cons, List.mapM_cons, first, ih others]
    apply of_bind
    intro b _
    exact of_bind_pure _ _

section Readers

variable {readValue : Kind → Bytes → Except Fault Value}
  {cutValue : Kind → Bytes → Cutting Value} {s : Bytes} {e : Entry}
  (same : ∀ kind raw, cutValue kind raw = of (readValue kind raw))

include same

theorem entryValue_eq (lies : e.value.LiesIn s) :
    entryValue cutValue s e = of (readValue e.kind e.value.bytes) := by
  rw [entryValue, cut_bind lies, same]

theorem entryNamed_eq (lies : e.name.LiesIn s ∧ e.value.LiesIn s) :
    entryNamed cutValue s e = of (e.readWith readValue) := by
  rw [entryNamed, cut_bind lies.1, entryValue_eq same lies.2]
  apply of_bind
  intro name _
  exact of_bind_pure _ _

/-- Whatever the input `s`, its entries lie in it, and cutting their values is reading them. -/
theorem documentWith_eq (s : Bytes) : documentWith cutValue s = of (decodeWith readValue s) := by
  apply of_bind
  intro found scanned
  have lie := Delimited.liesIn_of_scan scanned
  rw [mapM_of fun e mem => entryNamed_eq same (lie e mem)]
  exact of_bind_pure _ _

end Readers

theorem valueWithin_eq (levels : Nat) (kind : Kind) (raw : Bytes) :
    valueWithin levels kind raw = of (decodeWithin levels kind raw) := by
  induction levels generalizing kind raw with
  | zero => rfl
  | succ levels ih =>
    cases kind with
    | container =>
      apply of_bind
      intro inner _
      rw [documentWith_eq ih]
      exact of_bind_pure _ _
    | array =>
      apply of_bind
      intro inner _
      apply of_bind
      intro found scanned
      -- the items are cut out of the payload, where they were found
      have lie := Delimited.liesIn_of_scan scanned
      rw [mapM_of fun e mem => entryValue_eq ih (lie e mem).2]
      exact of_bind_pure _ _
    | null | bool | integer _ | float | double | string | bytes => rfl

/-- A value that is read by ranges is the value that `decodeValue` reads, and so is a refusal. -/
theorem value_eq (kind : Kind) (raw : Bytes) (depth : Nat) :
    value kind raw depth = of (decodeValue kind raw depth) :=
  valueWithin_eq _ kind raw

/-- A document that is read by ranges is the document that `Delimited.decode` reads, and so is a
refusal. -/
theorem document_eq (s : Bytes) : document s = of (Delimited.decode s) :=
  documentWith_eq (fun kind raw => value_eq kind raw 0) s

end Cutting

/-! ## Views -/

/-- The first entry of the name `key`, looked for by the ranges of the names. -/
def RawText.cutView? (key : String) (r : RawText) : Option (Option View) :=
  match r.entries with
  | .ok entries => entries.findM? fun e => do
    let name ← e.name.cut? r.bytes
    return name == Utf8.encode key
  | .error _ => some none

/-- `findM?` with a test that always has a result finds what the test is for. -/
theorem findM?_eq_some_find? {α : Type} {as : List α} {test : α → Option Bool} {holds : α → Bool}
    (same : ∀ a ∈ as, test a = some (holds a)) : as.findM? test = some (as.find? holds) := by
  induction as with
  | nil => rfl
  | cons a as ih =>
    obtain ⟨first, others⟩ := List.forall_mem_cons.1 same
    rw [List.findM?, first, List.find?]
    cases holds a with
    | true => rfl
    | false => exact ih others

namespace Delimited

/-- Whatever is cut for an entry of the text `s` is there: its name, its payload, and what is nested
in the payload. -/
structure Entry.InBounds (e : Entry) (s : Bytes) : Prop where
  /-- The name. -/
  name : e.name.cut? s = some e.name.bytes
  /-- The payload. -/
  raw : e.value.cut? s = some e.value.bytes
  /-- The value. -/
  value : ∀ depth, Cutting.entryValue (Cutting.value · · depth) s e =
    Cutting.of (decodeValue e.kind e.value.bytes depth)
  /-- The value with its name. -/
  materialize : ∀ depth, Cutting.entryNamed (Cutting.value · · depth) s e =
    Cutting.of (e.materialize depth)

variable {s : Bytes} {entries : List Entry}

theorem inBounds_of_index (indexed : index s = .ok entries) : ∀ e ∈ entries, e.InBounds s := by
  obtain ⟨found, scanned, rfl⟩ := Except.exists_of_map_eq_ok indexed
  intro e mem
  have lies := liesIn_of_scan scanned e mem
  constructor
  · exact lies.1.cut?_eq
  · exact lies.2.cut?_eq
  · intro depth
    exact Cutting.entryValue_eq (Cutting.value_eq · · depth) lies.2
  · intro depth
    exact Cutting.entryNamed_eq (Cutting.value_eq · · depth) lies

end Delimited

namespace RawText

variable {r : RawText} {entries : List Entry} {v : View}

/-- The entries of a kept text are cut in bounds, whether or not they were at hand before. -/
theorem inBounds_of_entries (known : r.entries = .ok entries) :
    ∀ e ∈ entries, e.InBounds r.bytes := by
  rw [entries_eq] at known
  exact Delimited.inBounds_of_index (Except.eq_ok_of_mapError_eq_ok known)

theorem inBounds_of_mem_views (mem : v ∈ r.views) : v.InBounds r.bytes := by
  rw [views] at mem
  cases known : r.entries with
  | error e =>
    rw [known] at mem
    cases mem
  | ok entries =>
    rw [known] at mem
    exact inBounds_of_entries known v mem

/-- The view of a name is one of the views. -/
theorem mem_views_of_view? {key : String} (found : r.view? key = some v) : v ∈ r.views := by
  rw [view?] at found
  rw [views]
  cases known : r.entries with
  | error e =>
    rw [known] at found
    cases found
  | ok entries =>
    rw [known] at found
    exact List.mem_of_find?_eq_some found

/-- Looking a view up by ranges is `view?`. -/
theorem cutView?_eq (key : String) (r : RawText) : r.cutView? key = some (r.view? key) := by
  rw [cutView?, view?]
  cases known : r.entries with
  | error e => rfl
  | ok entries =>
    apply findM?_eq_some_find?
    intro e mem
    rw [(inBounds_of_entries known e mem).name]
    rfl

end RawText

namespace Delimited

/-- Every entry of an `index` is a pair that stands in the input `s` at the ranges of the entry, the
pairs come in order and do not overlap, and cutting at these ranges never goes out of bounds:
neither for an entry, nor for a view of a kept text, nor for a document as a whole, which is read or
refused as it is without cutting. -/
theorem index_inBounds (s : Bytes) :
    (∀ entries, index s = .ok entries →
      (∀ e ∈ entries, ∃ before tag after, e.PairIn s before tag after) ∧
        entries.Pairwise Entry.Precedes ∧ ∀ e ∈ entries, e.InBounds s) ∧
      (∀ r : RawText, r.bytes = s → (∀ v ∈ r.views, v.InBounds s) ∧
        ∀ key, r.cutView? key = some (r.view? key) ∧ ∀ v, r.view? key = some v → v.InBounds s) ∧
      Cutting.document s = Cutting.of (decode s) := by
  refine ⟨?_, ?_, Cutting.document_eq s⟩
  · intro entries indexed
    obtain ⟨found, scanned, rfl⟩ := Except.exists_of_map_eq_ok indexed
    exact ⟨pairIn_of_scan scanned, precedes_of_scan scanned, inBounds_of_index indexed⟩
  · rintro r rfl
    refine ⟨fun v mem => RawText.inBounds_of_mem_views mem, fun key => ⟨r.cutView?_eq key, ?_⟩⟩
    intro v found
    exact RawText.inBounds_of_mem_views (RawText.mem_views_of_view? found)

/-- A text with a bracket in a name, a padded tag, and a payload that ends in a bracket. -/
def jaggedText : Bytes := Utf8.encode "@data=\x7b [a[b, +04 ,-7]; [c,12,x]];\x7d"

theorem index_inBounds_jaggedText :
    ∃ entries, index jaggedText = .ok entries ∧
      entries.map (fun e => (e.name.start, e.name.stop, e.kind, e.value.start, e.value.stop)) =
        [(9, 12, .integer .int, 19, 21), (25, 26, .string, 30, 32)] ∧
      (∀ e ∈ entries, ∃ before tag after, e.PairIn jaggedText before tag after) ∧
      entries.Pairwise Entry.Precedes ∧ (∀ e ∈ entries, e.InBounds jaggedText) ∧
      ∃ v, (RawText.of jaggedText).view? "c" = some v ∧ v.kind = .string ∧
        v.InBounds jaggedText := by
  obtain ⟨each, views, -⟩ := index_inBounds jaggedText
  have shape : (index jaggedText).map (fun entries => entries.map fun e =>
        (e.name.start, e.name.stop, e.kind, e.value.start, e.value.stop)) =
      .ok [(9, 12, .integer .int, 19, 21), (25, 26, .string, 30, 32)] := by
    decide +kernel
  have found : ((RawText.of jaggedText).view? "c").map (·.kind) = some .string := by
    decide +kernel
  obtain ⟨entries, indexed, ranges⟩ := Except.exists_of_map_eq_ok shape
  obtain ⟨v, viewed, kind⟩ := Option.map_eq_some_iff.1 found
  obtain ⟨pairs, ordered, inBounds⟩ := each entries indexed
  exact ⟨entries, indexed, ranges, pairs, ordered, inBounds, v, viewed, kind,
    ((views _ rfl).2 "c").2 v viewed⟩

end Delimited

end Parcel
