import Parcel.Codec
import Parcel.Proofs.Header
import Parcel.Proofs.MessagePack.Lengths
import Parcel.Proofs.Unicode.Utf8
import Parcel.Proofs.Value.Nesting

/-!
# MessagePack carries documents up to kinds

What MessagePack writes it reads back, but for two things that it does not tell apart: an integer
comes back with the narrowest kind that holds its number, and a nested container, which is written
as the bytes of its own encoding, comes back as these bytes.

Nothing inside a nested container is looked at, so only arrays use up the room for nesting, and the
bytes are refused exactly when it does not suffice. The proof follows the room that is left.

## Main definitions

* `MessagePack.canonical` — a document as it comes out of MessagePack
* `MessagePack.lengths` — the lengths that are written in front of what they are the length of
* `MessagePack.arrayLevels` — how many arrays a value opens within one another

## Main results

* `MessagePack.readsWithin` — a written value reads back when there is room for its arrays
* `MessagePack.documentWithin_entries` — and so do the entries of a document
* `MessagePack.decode_encode_canonical` — the round trip of a document
* `MessagePack.decode_encode_modest` — documents that do not come back, though no part is too long
-/

namespace Parcel.MessagePack

/-! ## What comes out -/

mutual

/-- A value as it comes out of MessagePack. -/
def canonicalValue : Value → Value
  | .integer n => .integer n.narrowed
  | .container d => .bytes (encode d)
  | .array items => .array (canonicalItems items)
  | v => v

/-- Values as they come out of MessagePack. -/
def canonicalItems : List Value → List Value
  | [] => []
  | v :: rest => canonicalValue v :: canonicalItems rest

end

/-- A named value as it comes out of MessagePack. -/
def canonicalNamed (n : Named) : Named := ⟨n.name, canonicalValue n.value⟩

/-- A document as it comes out of MessagePack. -/
def canonical (d : Document) : Document := ⟨d.header.onWire, d.values.map canonicalNamed⟩

/-! ## What has to fit -/

mutual

/-- The lengths that are written in a value. A nested container is written as bytes. -/
def valueLengths : Value → List Nat
  | .string s => [(Utf8.encode s).length]
  | .bytes s => [s.length]
  | .container d => [(encode d).length]
  | .array items => items.length :: itemLengths items
  | _ => []

/-- The lengths that are written in the items of an array. -/
def itemLengths : List Value → List Nat
  | [] => []
  | v :: rest => valueLengths v ++ itemLengths rest

end

/-- The lengths that are written in named values. -/
def namedLengths : List Named → List Nat
  | [] => []
  | n :: rest => (Utf8.encode n.name).length :: (valueLengths n.value ++ namedLengths rest)

/-- The lengths that are written in a document: of the header fields that go on the wire, of the
values and of whatever is in them. -/
def lengths (d : Document) : List Nat :=
  d.header.wireFields.map (fun p => (Utf8.encode p.2).length) ++
    d.values.length :: namedLengths d.values

mutual

/-- How many arrays a value opens within one another. -/
def arrayLevels : Value → Nat
  | .array items => itemLevels items + 1
  | _ => 0

/-- How many arrays the items of an array open within one another. -/
def itemLevels : List Value → Nat
  | [] => 0
  | v :: rest => max (arrayLevels v) (itemLevels rest)

end

/-! ## Texts -/

theorem rawText?_encodeText {s : String} (short : (Utf8.encode s).length < 2 ^ 32) (y : Bytes) :
    rawText? (encodeText s ++ y) = some (Utf8.encode s, y) := by
  rw [rawText?, encodeText, List.append_assoc, head?_text short]
  exact split?_append _ _

theorem text_encodeText {s : String} (short : (Utf8.encode s).length < 2 ^ 32) (y : Bytes) :
    text (encodeText s ++ y) = .ok (s, y) := by
  rw [text, rawText?_encodeText short]
  simp only [orMalformed, bind, Except.bind, Utf8.decode_encode]
  rfl

/-! ## Headers -/

theorem short_name (field : Field) : (Utf8.encode field.name).length < 2 ^ 32 := by
  cases field <;> decide

theorem fieldKey_name (field : Field) (y : Bytes) :
    fieldKey (encodeText field.name ++ y) = .ok (some field, y) := by
  rw [fieldKey, encodeText, List.append_assoc, head?_text (short_name field)]
  simp only [orMalformed, bind, Except.bind, split?_append, Utf8.decode_encode]
  change Except.ok (Field.ofName? field.name, y) = _
  rw [Field.ofName?_name]

/-- Different fields are set one after the other. -/
theorem headerEntries_encodeFields {fields : List (Field × String)} (room : Nat) (y : Bytes)
    {h : Header} {seen : List Field} (distinct : (fields.map Prod.fst).Nodup)
    (fresh : ∀ p ∈ fields, p.1 ∉ seen) (short : ∀ p ∈ fields, (Utf8.encode p.2).length < 2 ^ 32) :
    headerEntries room h seen fields.length (encodeFields fields ++ y) =
      .ok (h.setAll fields, y) := by
  induction fields generalizing h seen with
  | nil => rfl
  | cons p fields ih =>
    obtain ⟨field, value⟩ := p
    obtain ⟨(unseen : seen.contains field = false), distinct, fresh⟩ :=
      Header.fresh_tail distinct fresh
    obtain ⟨short_value, short⟩ := List.forall_mem_cons.1 short
    rw [List.length_cons, headerEntries, encodeFields, List.append_assoc, fieldKey_name]
    simp only [bind, Except.bind, unseen, List.append_assoc, text_encodeText short_value,
      ih distinct fresh short]
    rfl

theorem header_encodeFields {h : Header}
    (short : ∀ p ∈ h.wireFields, (Utf8.encode p.2).length < 2 ^ 32) (room : Nat) (y : Bytes) :
    header (room + 1) ((Head.map h.wireFields.length).write ++ (encodeFields h.wireFields ++ y)) =
      .ok (h.onWire, y) := by
  have few : h.wireFields.length < 2 ^ 32 := by
    rw [Header.wireFields, List.length_map]
    exact Nat.lt_of_le_of_lt (List.length_filter_le _ _) (by decide)
  rw [header, head?_map few]
  simp only [orMalformed, bind, Except.bind, Nat.add_one_ne_zero, if_false, Nat.add_sub_cancel]
  rw [headerEntries_encodeFields room y h.nodup_wireFields (fun _ _ mem => by cases mem) short,
    Header.setAll_wireFields]

/-! ## Values -/

/-- What a reader of values has to do with this room. -/
def ReadsWithin (room : Nat) : Prop :=
  ∀ (v : Value) (fuel depth : Nat) (y : Bytes), (∀ n ∈ valueLengths v, n < 2 ^ 32) →
    2 * (encodeValue v).length ≤ fuel →
      Gives (canonicalValue v, y) (arrayLevels v ≤ room) .malformed
        (valueWithin fuel room depth (encodeValue v ++ y))

theorem arrayLevels_of_flat {v : Value} (flat : v.kind ≠ .array) : arrayLevels v = 0 := by
  cases v with
  | array items => exact absurd rfl flat
  | _ => rfl

/-- What is no array reads back in one step, as `canonicalValue`. -/
theorem valueWithin_encodeValue_of_flat {v : Value} (flat : v.kind ≠ .array)
    (short : ∀ n ∈ valueLengths v, n < 2 ^ 32) (fuel room depth : Nat) (y : Bytes) :
    valueWithin (fuel + 1) room depth (encodeValue v ++ y) = .ok (canonicalValue v, y) := by
  cases v with
  | null =>
    rw [encodeValue, valueWithin]
    rfl
  | bool b =>
    rw [encodeValue, valueWithin]
    cases b <;> rfl
  | integer n =>
    rw [encodeValue, valueWithin, head?_integer]
    simp only [orMalformed, bind, Except.bind, integerKinds, Integer.narrowest?_number]
    rfl
  | float bits =>
    rw [encodeValue, valueWithin, head?_float]
    rfl
  | double bits =>
    rw [encodeValue, valueWithin, head?_double]
    rfl
  | string s =>
    have short : (Utf8.encode s).length < 2 ^ 32 := short _ List.mem_cons_self
    rw [encodeValue, valueWithin, encodeText, List.append_assoc, head?_text short]
    simp only [orMalformed, bind, Except.bind, split?_append, Utf8.decode_encode]
    rfl
  | bytes s =>
    have short : s.length < 2 ^ 32 := short _ List.mem_cons_self
    rw [encodeValue, valueWithin, encodeBinary, List.append_assoc, head?_binary short]
    simp only [orMalformed, bind, Except.bind, split?_append]
    rfl
  | container d =>
    have short : (encode d).length < 2 ^ 32 := short _ List.mem_cons_self
    rw [encodeValue, valueWithin, encodeBinary, List.append_assoc, head?_binary short]
    simp only [orMalformed, bind, Except.bind, split?_append]
    rfl
  | array items => exact absurd rfl flat

/-- What is no array reads back whatever `room` there is. -/
theorem gives_of_flat {v : Value} (flat : v.kind ≠ .array)
    (short : ∀ n ∈ valueLengths v, n < 2 ^ 32) (fuel room depth : Nat) (y : Bytes) :
    Gives (canonicalValue v, y) (arrayLevels v ≤ room) .malformed
      (valueWithin (fuel + 1) room depth (encodeValue v ++ y)) := by
  rw [arrayLevels_of_flat flat]
  exact .of_eq_ok (valueWithin_encodeValue_of_flat flat short fuel room depth y) (Nat.zero_le room)

/-- A written value is longer than nothing, since nothing can be read from nothing. -/
theorem length_encodeValue_pos {v : Value} (short : ∀ n ∈ valueLengths v, n < 2 ^ 32) :
    0 < (encodeValue v).length := by
  by_cases flat : v.kind = .array
  · cases v with
    | array items =>
      have read := head?_array (short _ List.mem_cons_self) (encodeItems items)
      rw [encodeValue]
      exact length_pos_of_head? read
    | _ => cases flat
  · have read := valueWithin_encodeValue_of_flat flat short 0 0 0 []
    cases eq : encodeValue v with
    | nil =>
      rw [eq, List.append_nil, valueWithin] at read
      cases read
    | cons b s => exact Nat.succ_pos _

section Room

variable {room fuel : Nat}

theorem itemsWithin_encodeItems (reads : ReadsWithin room) (items : List Value) (depth : Nat)
    (y : Bytes) (short : ∀ n ∈ itemLengths items, n < 2 ^ 32)
    (enough : 2 * (encodeItems items).length < fuel) :
    Gives (canonicalItems items, y) (itemLevels items ≤ room) .malformed
      (itemsWithin fuel room depth items.length (encodeItems items ++ y)) := by
  induction items generalizing fuel with
  | nil =>
    rw [List.length_nil, itemsWithin]
    exact .of_eq_ok rfl (Nat.zero_le room)
  | cons v items ih =>
    rw [itemLengths, List.forall_mem_append] at short
    rw [encodeItems, List.length_append] at enough
    -- every item takes a byte, which pays for the step to it and the step into it
    have positive := length_encodeValue_pos short.1
    obtain ⟨fuel, rfl⟩ := Nat.exists_eq_add_one.2 (by omega : 0 < fuel)
    have first := reads v fuel depth (encodeItems items ++ y) short.1 (by omega)
    have rest := ih short.2 (by omega : 2 * (encodeItems items).length < fuel)
    rw [List.length_cons, itemsWithin, encodeItems, List.append_assoc, itemLevels, Nat.max_le]
    exact first.andThen rest List.cons

/-- A written value reads back when there is `room` for its arrays, by induction on that. -/
theorem readsWithin (room : Nat) : ReadsWithin room := by
  -- every array is one level less of room for its items
  induction room with
  | zero =>
    intro v fuel depth y short enough
    have positive := length_encodeValue_pos short
    obtain ⟨fuel, rfl⟩ := Nat.exists_eq_add_one.2 (by omega : 0 < fuel)
    by_cases flat : v.kind = .array
    · cases v with
      | array items =>
        have read := head?_array (short _ List.mem_cons_self) (encodeItems items ++ y)
        rw [encodeValue, List.append_assoc, valueWithin, read]
        exact ⟨fun fits => absurd fits (Nat.not_succ_le_zero _), fun _ => rfl⟩
      | _ => cases flat
    · exact gives_of_flat flat short fuel 0 depth y
  | succ room ih =>
    intro v fuel depth y short enough
    have positive := length_encodeValue_pos short
    obtain ⟨fuel, rfl⟩ := Nat.exists_eq_add_one.2 (by omega : 0 < fuel)
    by_cases flat : v.kind = .array
    · cases v with
      | array items =>
        obtain ⟨few, short⟩ := List.forall_mem_cons.1 short
        have read := head?_array few (encodeItems items ++ y)
        have marked := length_pos_of_head? (head?_array few [])
        rw [List.append_nil] at marked
        rw [encodeValue, List.length_append] at enough
        have inside := itemsWithin_encodeItems ih items depth y short
          (by omega : 2 * (encodeItems items).length < fuel)
        rw [encodeValue, List.append_assoc, valueWithin, read]
        simp only [orMalformed, bind, Except.bind, Nat.add_one_ne_zero, if_false,
          Nat.add_sub_cancel]
        refine ⟨fun fits => ?_, fun full => ?_⟩
        · rw [inside.ok (Nat.le_of_succ_le_succ fits)]
          rfl
        · rw [inside.error fun fits => full (Nat.succ_le_succ fits)]
      | _ => cases flat
    · exact gives_of_flat flat short fuel (room + 1) depth y

theorem namedWithin_encodeValues (values : List Named) (depth : Nat) (y : Bytes)
    (short : ∀ n ∈ namedLengths values, n < 2 ^ 32)
    (enough : 2 * (encodeValues values).length < fuel) :
    Gives (values.map canonicalNamed, y) (∀ n ∈ values, arrayLevels n.value ≤ room) .malformed
      (namedWithin fuel room depth values.length (encodeValues values ++ y)) := by
  induction values generalizing fuel with
  | nil =>
    rw [List.length_nil, namedWithin]
    exact .of_eq_ok rfl fun _ mem => by cases mem
  | cons n values ih =>
    obtain ⟨name, v⟩ := n
    obtain ⟨short_name, short⟩ := List.forall_mem_cons.1 short
    rw [List.forall_mem_append] at short
    rw [encodeValues, List.length_append, List.length_append] at enough
    have positive : 0 < (encodeValue v).length := length_encodeValue_pos short.1
    obtain ⟨fuel, rfl⟩ := Nat.exists_eq_add_one.2 (by omega : 0 < fuel)
    have first := readsWithin room v fuel depth (encodeValues values ++ y) short.1 (by omega)
    have rest := ih short.2 (by omega : 2 * (encodeValues values).length < fuel)
    rw [List.length_cons, namedWithin, encodeValues, List.append_assoc, List.append_assoc,
      text_encodeText short_name, List.forall_mem_cons]
    exact first.andThen rest fun v values => (⟨name, v⟩ : Named) :: values

end Room

/-! ## Documents -/

/-- The entries of a document: its header and its values. -/
def entries (d : Document) : Bytes :=
  encodeText "header" ++ ((Head.map d.header.wireFields.length).write ++
    (encodeFields d.header.wireFields ++ (encodeText "values" ++
      ((Head.map d.values.length).write ++ encodeValues d.values))))

theorem encode_eq (d : Document) : encode d = (Head.map 2).write ++ entries d := by
  obtain ⟨h, values⟩ := d
  rw [encode]
  rfl

/-- After the header and the marker of the values, `documentWithin` reads the entries of `d` as
`namedWithin` reads the values, whatever comes of them. -/
theorem documentWithin_entries_eq {d : Document}
    (short : ∀ p ∈ d.header.wireFields, (Utf8.encode p.2).length < 2 ^ 32)
    (few : d.values.length < 2 ^ 32) (fuel room depth : Nat) (y : Bytes) :
    documentWithin (fuel + 2) (room + 1) depth .empty 2 (entries d ++ y) =
      (namedWithin fuel room depth d.values.length (encodeValues d.values ++ y)).map
        fun p => (⟨d.header.onWire, p.1⟩, p.2) := by
  have other : "values" ≠ "header" := by decide
  simp only [entries, List.append_assoc]
  rw [documentWithin, text_encodeText (by decide)]
  simp only [bind, Except.bind, if_true, header_encodeFields short]
  rw [documentWithin, text_encodeText (by decide)]
  simp only [bind, Except.bind, if_true, if_neg other, head?_map few, orMalformed,
    Nat.add_one_ne_zero, if_false, Nat.add_sub_cancel]
  cases namedWithin fuel room depth d.values.length (encodeValues d.values ++ y) with
  | error e => rfl
  | ok p =>
    dsimp only
    rw [documentWithin]
    rfl

/-- The entries of `d` read back when there is room for the arrays in it, and the bytes `y` after
them are left. -/
theorem documentWithin_entries {d : Document} (short : ∀ n ∈ lengths d, n < 2 ^ 32)
    {fuel : Nat} (enough : 2 * (entries d).length ≤ fuel) (room depth : Nat) (y : Bytes) :
    Gives (canonical d, y) (∀ n ∈ d.values, arrayLevels n.value ≤ room) .malformed
      (documentWithin fuel (room + 1) depth .empty 2 (entries d ++ y)) := by
  obtain ⟨short_fields, short⟩ := List.forall_mem_append.1 short
  obtain ⟨few, short⟩ := List.forall_mem_cons.1 short
  -- the keys pay for the two steps of the entries
  have marked : 0 < (encodeText "values").length := by decide
  have titled : 0 < (encodeText "header").length := by decide
  simp only [entries, List.length_append] at enough
  obtain ⟨fuel, rfl⟩ : ∃ k, fuel = k + 2 := ⟨fuel - 2, by omega⟩
  rw [documentWithin_entries_eq (List.forall_mem_map.1 short_fields) few]
  have inside : Gives (d.values.map canonicalNamed, y)
      (∀ n ∈ d.values, arrayLevels n.value ≤ room) .malformed
      (namedWithin fuel room depth d.values.length (encodeValues d.values ++ y)) :=
    namedWithin_encodeValues d.values depth y short (by omega)
  exact inside.map fun p => ((⟨d.header.onWire, p.1⟩ : Document), p.2)

theorem head?_encode (d : Document) : head? (encode d) = some (.map 2, entries d) := by
  rw [encode_eq]
  exact head?_map (by decide) (entries d)

/-- The bytes of a document give `canonical d`, when there is room for its arrays. The document and
the map of its values are around all of them. -/
theorem gives_decode_encode {d : Document} (short : ∀ n ∈ lengths d, n < 2 ^ 32) :
    Gives (canonical d) (∀ n ∈ d.values, arrayLevels n.value ≤ nestingLimit - 2) .malformed
      (decode (encode d)) := by
  have enough : 2 * (entries d).length ≤ 2 * (encode d).length + 2 := by
    rw [encode_eq, List.length_append]
    omega
  have inside := documentWithin_entries short enough (nestingLimit - 2) 0 []
  rw [List.append_nil] at inside
  rw [decode, head?_encode]
  exact inside.map Prod.fst

/-- What MessagePack writes is detected. It reads back up to kinds, as `canonical d`, when, with the
document and its values, the arrays are not nested beyond `nestingLimit`, and is refused otherwise,
in the words of the MessagePack library. All `lengths` have to fit in four bytes. -/
theorem decode_encode_canonical {d : Document} (short : ∀ n ∈ lengths d, n < 2 ^ 32) :
    ∃ s, Codec.encode .msgpack d = .ok s ∧ Format.detect? s = some .msgpack ∧
      ((∀ n ∈ d.values, arrayLevels n.value + 2 ≤ nestingLimit) →
        Codec.decode .msgpack s = .ok (canonical d)) ∧
      ((∃ n ∈ d.values, nestingLimit < arrayLevels n.value + 2) →
        Codec.decode .msgpack s =
          .error (.deserializationFailed (.quoted "MessagePack: " (.messagePack s)))) := by
  have gives := gives_decode_encode short
  refine ⟨encode d, rfl, ?_, fun nested => ?_, fun deep => ?_⟩
  · rw [encode_eq]
    rfl
  · change (decode (encode d)).mapError _ = _
    rw [gives.ok fun n mem => Nat.le_sub_of_add_le (nested n mem)]
    rfl
  · obtain ⟨n, mem, below⟩ := deep
    change (decode (encode d)).mapError _ = _
    rw [nestingLimit] at below
    rw [gives.error fun room => absurd (room n mem) (by rw [nestingLimit]; omega)]
    rfl

/-- An untyped document with a container in an array and integers of several sizes. -/
def mixedDocument : Document :=
  ⟨{ sourceId := "a" },
    [⟨"k", .array [.container ⟨{ messageType := "m" }, [⟨"x", .null⟩]⟩]⟩,
      ⟨"k", .integer ⟨.ullong, 200, by decide⟩⟩, ⟨"", .integer ⟨.short, -129, by decide⟩⟩]⟩

theorem decode_encode_mixedDocument :
    (∀ n ∈ lengths mixedDocument, n < 2 ^ 32) ∧
      ∃ s, Codec.encode .msgpack mixedDocument = .ok s ∧ Format.detect? s = some .msgpack ∧
        Codec.decode .msgpack s = .ok (canonical mixedDocument) := by
  have short : ∀ n ∈ lengths mixedDocument, n < 2 ^ 32 := by decide +kernel
  have nested : ∀ n ∈ mixedDocument.values, arrayLevels n.value + 2 ≤ nestingLimit := by
    decide +kernel
  obtain ⟨s, written, detected, read, -⟩ := decode_encode_canonical short
  exact ⟨short, s, written, detected, read nested⟩

/-! ## Beyond the limits -/

/-- A document that comes back as `canonical` says has no container whose bytes are too many to be
counted. -/
theorem length_encode_lt_of_decode {d e : Document} {name : String}
    (read : decode (encode d) = .ok (canonical d)) (mem : ⟨name, .container e⟩ ∈ d.values) :
    (encode e).length < 2 ^ 32 :=
  length_lt_of_decode read _ (List.mem_map_of_mem mem) _ rfl

/-- What a value has of its own can be counted with 32 bits: the bytes of a text or of a buffer, the
items of an array, or the values, names and header fields of a container. How many bytes a container
comes to is left open. -/
def Countable : Value → Prop
  | .string s => (Utf8.encode s).length < 2 ^ 32
  | .bytes s => s.length < 2 ^ 32
  | .array items => items.length < 2 ^ 32
  | .container d => d.values.length < 2 ^ 32 ∧
    (∀ p ∈ d.header.wireFields, (Utf8.encode p.2).length < 2 ^ 32) ∧
    ∀ n ∈ d.values, (Utf8.encode n.name).length < 2 ^ 32
  | _ => True

/-- Everything in the document can be counted, and with the document and its values no more than
1024 maps and arrays are nested. -/
structure Modest (d : Document) : Prop where
  countable : (Value.container d).Every Countable
  nested : ∀ n ∈ d.values, arrayLevels n.value + 2 ≤ 1024

theorem short_wireFields_initial :
    ∀ p ∈ ({} : Header).wireFields, (Utf8.encode p.2).length < 2 ^ 32 := by
  decide

theorem every_countable_container {values : List Named} (few : values.length < 2 ^ 32)
    (named : ∀ n ∈ values, (Utf8.encode n.name).length < 2 ^ 32)
    (inside : ∀ n ∈ values, n.value.Every Countable) :
    (Value.container ⟨{}, values⟩).Every Countable :=
  Value.every_container_iff.2 ⟨⟨few, short_wireFields_initial, named⟩, inside⟩

/-- Two buffers of `n` bytes. -/
def twoBuffers (n : Nat) : Document :=
  ⟨{}, [⟨"a", .bytes (List.replicate n 0)⟩, ⟨"b", .bytes (List.replicate n 0)⟩]⟩

/-- A container with two buffers of `n` bytes. -/
def parcelledBuffers (n : Nat) : Document := ⟨{}, [⟨"c", .container (twoBuffers n)⟩]⟩

theorem le_length_encode_twoBuffers (n : Nat) : 2 * n ≤ (encode (twoBuffers n)).length := by
  simp only [twoBuffers, encode, encodeValues, encodeValue, encodeBinary, List.length_append,
    List.length_replicate]
  omega

theorem modest_parcelledBuffers {n : Nat} (short : n < 2 ^ 32) : Modest (parcelledBuffers n) := by
  have named : ∀ name ∈ ["a", "b", "c"], (Utf8.encode name).length < 2 ^ 32 := by decide
  have buffer : (Value.bytes (List.replicate n 0)).Every Countable :=
    (Value.every_iff_of_flat (by simp [Value.kind])).2 (by simpa [Countable] using short)
  have inner : (Value.container (twoBuffers n)).Every Countable := by
    refine every_countable_container (by simp) ?_ ?_
    · simpa using ⟨named "a" (by simp), named "b" (by simp)⟩
    · simpa using buffer
  refine ⟨every_countable_container (by simp) ?_ ?_, ?_⟩
  · simpa using named "c" (by simp)
  · simpa using inner
  · simp [parcelledBuffers, arrayLevels]

/-- So many arrays in one another. -/
def nestedArrays : Nat → Value
  | 0 => .null
  | levels + 1 => .array [nestedArrays levels]

/-- A value of so many arrays in one another. -/
def deepArrays (levels : Nat) : Document := ⟨{}, [⟨"k", nestedArrays levels⟩]⟩

theorem arrayLevels_nestedArrays (levels : Nat) : arrayLevels (nestedArrays levels) = levels := by
  induction levels with
  | zero => rfl
  | succ levels ih => simp [nestedArrays, arrayLevels, itemLevels, ih]

theorem valueLengths_nestedArrays (levels : Nat) :
    ∀ n ∈ valueLengths (nestedArrays levels), n < 2 ^ 32 := by
  induction levels with
  | zero => simp [nestedArrays, valueLengths]
  | succ levels ih => simpa [nestedArrays, valueLengths, itemLengths] using ih

theorem every_countable_nestedArrays (levels : Nat) : (nestedArrays levels).Every Countable := by
  induction levels with
  | zero => exact (Value.every_iff_of_flat (by simp [nestedArrays, Value.kind])).2 True.intro
  | succ levels ih =>
    exact Value.every_array_iff.2 ⟨by simp [Countable], List.forall_mem_singleton.2 ih⟩

theorem modest_deepArrays {levels : Nat} (few : levels + 2 ≤ 1024) :
    Modest (deepArrays levels) := by
  have named : (Utf8.encode "k").length < 2 ^ 32 := by decide
  refine ⟨every_countable_container (by simp) ?_ ?_, ?_⟩
  · simpa using named
  · simpa using every_countable_nestedArrays levels
  · simpa [deepArrays, arrayLevels_nestedArrays] using few

/-- The reader refuses `deepArrays` that are nested one level deeper than it has room for. -/
theorem decode_deepArrays {levels : Nat} (deep : nestingLimit < levels + 2) :
    decode (encode (deepArrays levels)) = .error .malformed := by
  have short : ∀ n ∈ lengths (deepArrays levels), n < 2 ^ 32 := by
    have named : (Utf8.encode "k").length < 2 ^ 32 := by decide
    refine List.forall_mem_append.2 ⟨List.forall_mem_map.2 short_wireFields_initial, ?_⟩
    refine List.forall_mem_cons.2 ⟨by simp [deepArrays], List.forall_mem_cons.2 ⟨named, ?_⟩⟩
    exact List.forall_mem_append.2 ⟨valueLengths_nestedArrays levels, nofun⟩
  refine (gives_decode_encode short).error fun fits => ?_
  have within : arrayLevels (nestedArrays levels) ≤ nestingLimit - 2 :=
    fits _ (List.mem_singleton_self _)
  rw [arrayLevels_nestedArrays] at within
  rw [nestingLimit] at within deep
  omega

/-- Two buffers may each be short while the container that holds them is too long, and 1024 levels
are one more than can be read. Both documents are `Modest`, and neither comes back. -/
theorem decode_encode_modest :
    (Modest (parcelledBuffers (3 * 2 ^ 30)) ∧
      ∀ s, Codec.encode .msgpack (parcelledBuffers (3 * 2 ^ 30)) = .ok s →
        Codec.decode .msgpack s ≠ .ok (canonical (parcelledBuffers (3 * 2 ^ 30)))) ∧
    Modest (deepArrays 1022) ∧
      ∀ s, Codec.encode .msgpack (deepArrays 1022) = .ok s →
        Codec.decode .msgpack s ≠ .ok (canonical (deepArrays 1022)) := by
  refine ⟨⟨modest_parcelledBuffers (by decide), ?_⟩, modest_deepArrays (by decide), ?_⟩
  · intro s written read
    obtain rfl := Except.ok.inj written
    have counted : (encode (twoBuffers (3 * 2 ^ 30))).length < 2 ^ 32 :=
      length_encode_lt_of_decode (Except.eq_ok_of_mapError_eq_ok read) List.mem_cons_self
    have long := le_length_encode_twoBuffers (3 * 2 ^ 30)
    omega
  · intro s written read
    obtain rfl := Except.ok.inj written
    have read : decode (encode (deepArrays 1022)) = .ok (canonical (deepArrays 1022)) :=
      Except.eq_ok_of_mapError_eq_ok read
    rw [decode_deepArrays (by decide)] at read
    cases read

end Parcel.MessagePack
