import Parcel.Codec
import Parcel.Proofs.Delimited.Rescan
import Parcel.Proofs.Value.Nesting

/-!
# The text format carries documents

What the text format writes it reads back. The only differences are the routing identifiers that
an untyped header keeps off the wire, and the pattern of a floating-point payload that denotes no
number. Values that sit too deep are refused, wherever they are.

The proof follows the levels that the reader has left, so it needs no recursion over documents:
with one level less it holds for whatever is inside a container or an array.

## Main definitions

* `Document.received` — a document as it comes out of the text format

## Main results

* `Delimited.decodeWithin_payload` — a written value reads back, or is nested too deeply
* `Delimited.decode_encode_document` — the round trip of a document
-/

namespace Parcel

/-! ## What comes out -/

mutual

/-- A value as it comes out of the text format. -/
def Value.received : Value → Value
  | .float bits => .float (Binary.single.quieted bits.toNat).toUInt32
  | .double bits => .double (Binary.double.quieted bits.toNat).toUInt64
  | .container d => .container d.received
  | .array items => .array (Value.receivedItems items)
  | v => v

/-- Values as they come out of the text format. -/
def Value.receivedItems : List Value → List Value
  | [] => []
  | v :: rest => v.received :: Value.receivedItems rest

/-- Named values as they come out of the text format. -/
def Named.receivedAll : List Named → List Named
  | [] => []
  | ⟨name, v⟩ :: rest => ⟨name, v.received⟩ :: Named.receivedAll rest

/-- A document as it comes out of the text format: without what stays off the wire, and with one
pattern for everything that denotes no number. -/
def Document.received : Document → Document
  | ⟨header, values⟩ => ⟨header.onWire, Named.receivedAll values⟩

end

/-- A named value as it comes out of the text format. -/
def Named.received (n : Named) : Named := ⟨n.name, n.value.received⟩

theorem Value.receivedItems_eq_map (items : List Value) :
    receivedItems items = items.map received := by
  induction items with
  | nil => rfl
  | cons v items ih => rw [receivedItems, ih, List.map_cons]

theorem Named.receivedAll_eq_map (values : List Named) :
    receivedAll values = values.map received := by
  induction values with
  | nil => rfl
  | cons n values ih =>
    obtain ⟨name, v⟩ := n
    rw [receivedAll, ih, List.map_cons]
    rfl

theorem Document.received_eq (d : Document) :
    d.received = ⟨d.header.onWire, d.values.map Named.received⟩ := by
  obtain ⟨header, values⟩ := d
  rw [received, Named.receivedAll_eq_map]

namespace Delimited

variable {name : String} {s : Bytes}

/-! ## Literals -/

theorem literal_encodeChars (kind : Kind) {cs : List Char} (graphic : ∀ c ∈ cs, isLiteral c) :
    literal kind (Utf8.encodeChars cs) = .ok cs := by
  rw [literal, text, Utf8.decode_encodeChars]
  change Except.ok (Unicode.trimChars (String.ofList cs).toList) = _
  rw [String.toList_ofList,
    Unicode.trimChars_of_isGraphic fun c mem => isGraphic_of_isLiteral (graphic c mem)]

theorem parsed_encodeChars (kind : Kind) {cs : List Char} (graphic : ∀ c ∈ cs, isLiteral c)
    {read : List Char → Option Value} {v : Value} (found : read cs = some v) :
    parsed kind (Utf8.encodeChars cs) read = .ok v := by
  rw [parsed, literal_encodeChars kind graphic]
  simp only [bind, Except.bind, found]
  rfl

theorem integerLiteral?_ofInt (n : Integer) :
    integerLiteral? n.kind (Decimal.ofInt n.number) = some n := by
  have holds : Integer.ofInt? n.kind n.number = some n := dif_pos n.holds
  rw [integerLiteral?]
  cases signed : n.kind.width.signed with
  | true => rw [if_pos rfl, Decimal.integer?_ofInt, Option.bind_some, holds]
  | false =>
    -- an unsigned kind holds no negative number, so there is no sign to read
    have least : 0 ≤ n.number := by
      have := n.holds.1
      rwa [Width.least, signed] at this
    obtain ⟨m, eq⟩ := Int.eq_ofNat_of_zero_le least
    rw [if_neg (by decide)]
    rw [eq] at holds ⊢
    change ((Decimal.natural? (Decimal.ofNat m)).map Int.ofNat).bind _ = _
    rw [Decimal.natural?_ofNat]
    exact holds

theorem unhex_encode (kind : Kind) (x : Bytes) : unhex kind (Hex.encode x) = .ok x := by
  rw [unhex, Hex.encode_eq_encodeChars,
    literal_encodeChars kind fun c mem => isLiteral_of_mem_hex mem]
  simp only [bind, Except.bind]
  rw [← Hex.encode_eq_encodeChars, Hex.decode_encode]
  rfl

/-! ## Lists of entries -/

section Entries

variable {α β γ : Type} {related : α → β → Prop} {read : β → Except Fault γ} {as : List α}
  {bs : List β}

theorem mapM_eq_ok {found : α → γ} (all : List.Forall₂ related as bs)
    (each : ∀ a ∈ as, ∀ b, related a b → read b = .ok (found a)) :
    bs.mapM read = .ok (as.map found) := by
  induction all with
  | nil => rfl
  | @cons a b as bs first rest ih =>
    rw [List.mapM_cons, each a List.mem_cons_self b first,
      ih fun a mem => each a (List.mem_cons_of_mem _ mem)]
    rfl

/-- The first fault is the fault of the whole list. -/
theorem mapM_eq_error {fault : Fault} (all : List.Forall₂ related as bs)
    (each : ∀ a b, related a b → (∃ c, read b = .ok c) ∨ read b = .error fault)
    (failing : ∃ a ∈ as, ∀ b, related a b → read b = .error fault) :
    bs.mapM read = .error fault := by
  induction all with
  | nil =>
    obtain ⟨a, mem, -⟩ := failing
    cases mem
  | @cons a b as bs first rest ih =>
    rw [List.mapM_cons]
    rcases each a b first with ⟨c, read_eq⟩ | read_eq
    · -- this one can be read, so the one that fails comes later
      rw [read_eq]
      have later : ∃ a ∈ as, ∀ b, related a b → read b = .error fault := by
        obtain ⟨x, mem, fails⟩ := failing
        rcases List.mem_cons.1 mem with rfl | mem
        · rw [fails b first] at read_eq
          cases read_eq
        · exact ⟨x, mem, fails⟩
      rw [ih later]
      rfl
    · rw [read_eq]
      rfl

end Entries

/-! ## Values -/

/-- What a reader of the values of entries has to do: give what comes out, or say that the value is
nested too deeply. -/
structure ReadsWithin (levels : Nat) : Prop where
  ok : ∀ {name : String} {v : Value} {s : Bytes}, encodeValue name v = .of s →
    v.Within levels → decodeWithin levels v.kind s = .ok v.received
  error : ∀ {name : String} {v : Value} {s : Bytes}, encodeValue name v = .of s →
    ¬v.Within levels → decodeWithin levels v.kind s = .error .tooDeep

section Levels

variable {levels : Nat} {values : List Named} {entries : List Entry}

/-- Reading an entry that `Stands` for a named value is reading the value. -/
theorem readWith_stands {read : Kind → Bytes → Except Fault Value} {e : Entry} {n : Named}
    (stands : e.Stands n) :
    e.readWith read = (read n.value.kind e.value.bytes).map (⟨n.name, ·⟩) := by
  rw [Entry.readWith, stands.name, text_encode, stands.kind]
  rfl

/-- The entries of written values give these values, when the values are nested `Within` the levels.
-/
theorem mapM_readWith_eq_ok (reads : ReadsWithin levels)
    (stand : List.Forall₂ (fun n e => e.Stands n) values entries)
    (within : ∀ n ∈ values, n.value.Within levels) :
    entries.mapM (Entry.readWith (decodeWithin levels)) = .ok (values.map Named.received) := by
  refine mapM_eq_ok stand fun n mem e stands => ?_
  rw [readWith_stands stands, reads.ok stands.value (within n mem)]
  rfl

theorem mapM_readWith_eq_error (reads : ReadsWithin levels)
    (stand : List.Forall₂ (fun n e => e.Stands n) values entries)
    (deep : ∃ n ∈ values, ¬n.value.Within levels) :
    entries.mapM (Entry.readWith (decodeWithin levels)) = .error .tooDeep := by
  refine mapM_eq_error stand (fun n e stands => ?_) ?_
  · rw [readWith_stands stands]
    by_cases within : n.value.Within levels
    · rw [reads.ok stands.value within]
      exact .inl ⟨_, rfl⟩
    · rw [reads.error stands.value within]
      exact .inr rfl
  · obtain ⟨n, mem, below⟩ := deep
    refine ⟨n, mem, fun e stands => ?_⟩
    rw [readWith_stands stands, reads.error stands.value below]
    rfl

/-- A written document reads back when the values in it do. -/
theorem decodeWith_eq_ok {d : Document} {s : Bytes} (reads : ReadsWithin levels)
    (written : encode d = .of s) (within : ∀ n ∈ d.values, n.value.Within levels) :
    decodeWith (decodeWithin levels) s = .ok d.received := by
  obtain ⟨absent, writable, rfl⟩ := encode_eq_of_iff.1 written
  obtain ⟨entries, stand, scanned⟩ := scan_document absent writable
  rw [decodeWith, scanned]
  change Except.bind (entries.mapM _) _ = _
  rw [mapM_readWith_eq_ok reads stand within, Document.received_eq]
  rfl

theorem decodeWith_eq_error {d : Document} {s : Bytes} (reads : ReadsWithin levels)
    (written : encode d = .of s) (deep : ∃ n ∈ d.values, ¬n.value.Within levels) :
    decodeWith (decodeWithin levels) s = .error .tooDeep := by
  obtain ⟨absent, writable, rfl⟩ := encode_eq_of_iff.1 written
  obtain ⟨entries, stand, scanned⟩ := scan_document absent writable
  rw [decodeWith, scanned]
  change Except.bind (entries.mapM _) _ = _
  rw [mapM_readWith_eq_error reads stand deep]
  rfl

end Levels

/-- What is written in an array is the data block of its items, as `numbered` names them. -/
theorem encodeValue_array_iff {items : List Value} :
    encodeValue name (.array items) = .of s ↔
      (∀ n ∈ numbered 0 items, Writable n) ∧ s = Hex.encode (dataBytes (numbered 0 items)) := by
  rw [encodeValue, encodeItems_eq, Draft.wrap_eq_of_iff]
  constructor
  · rintro ⟨x, block, rfl⟩
    obtain ⟨writable, rfl⟩ := dataBlock_eq_of_iff.1 block
    exact ⟨writable, rfl⟩
  · rintro ⟨writable, rfl⟩
    exact ⟨_, dataBlock_eq_of_iff.2 ⟨writable, rfl⟩, rfl⟩

theorem decodeWithin_float {levels : Nat} {bits : UInt32}
    (written : encodeValue name (.float bits) = .of s) :
    decodeWithin (levels + 1) .float s = .ok (Value.float bits).received := by
  obtain rfl := Draft.of_injective written
  refine parsed_encodeChars .float (fun c mem => isLiteral_of_mem_display mem) ?_
  rw [Number.read?_display_eq Binary.Format.ordinary_single bits.toNat_lt]
  rfl

theorem decodeWithin_double {levels : Nat} {bits : UInt64}
    (written : encodeValue name (.double bits) = .of s) :
    decodeWithin (levels + 1) .double s = .ok (Value.double bits).received := by
  obtain rfl := Draft.of_injective written
  refine parsed_encodeChars .double (fun c mem => isLiteral_of_mem_display mem) ?_
  rw [Number.read?_display_eq Binary.Format.ordinary_double bits.toNat_lt]
  rfl

/-- Literals read back whatever levels are left above them. -/
theorem decodeWithin_literal {levels : Nat} {v : Value} (written : encodeValue name v = .of s)
    (flat : v.kind ≠ .container ∧ v.kind ≠ .array) :
    decodeWithin (levels + 1) v.kind s = .ok v.received := by
  cases v with
  | null => rfl
  | bool b =>
    obtain rfl := Draft.of_injective written
    have all : (if b then "true" else "false").toList.all isLiteral = true := by
      cases b <;> decide
    have read : literal .bool (Utf8.encode (if b then "true" else "false")) =
        .ok (if b then "true" else "false").toList :=
      literal_encodeChars .bool (List.all_eq_true.1 all)
    change (literal .bool _).map _ = _
    rw [read]
    cases b <;> rfl
  | integer n =>
    obtain rfl := Draft.of_injective written
    refine parsed_encodeChars (.integer n.kind) (fun c mem => isLiteral_of_mem_ofInt mem) ?_
    rw [integerLiteral?_ofInt]
    rfl
  | float bits => exact decodeWithin_float written
  | double bits => exact decodeWithin_double written
  | string t =>
    obtain ⟨-, rfl⟩ := verbatim_eq_of_iff.1 written
    change (text "string value" (Utf8.encode t)).map Value.string = _
    rw [text_encode]
    rfl
  | bytes x =>
    obtain ⟨-, rfl⟩ := verbatim_eq_of_iff.1 written
    rfl
  | container d => exact absurd rfl flat.1
  | array items => exact absurd rfl flat.2

theorem decodeWithin_container {levels : Nat} (x : Bytes) :
    decodeWithin (levels + 1) .container (Hex.encode x) =
      (decodeWith (decodeWithin levels) x).map Value.container := by
  rw [decodeWithin]
  simp only [unhex_encode, bind, Except.bind]
  rfl

theorem decodeWithin_array {levels : Nat} {x : Bytes} {found : Scan}
    (scanned : scan x = .ok found) :
    decodeWithin (levels + 1) .array (Hex.encode x) =
      (found.entries.mapM fun e => decodeWithin levels e.kind e.value.bytes).map Value.array := by
  rw [decodeWithin]
  simp only [unhex_encode, bind, Except.bind, scanned]
  rfl

/-- The entries of an array give its items. -/
theorem mapM_items_eq_ok {levels : Nat} {items : List Value} {entries : List Entry}
    (reads : ReadsWithin levels)
    (stand : List.Forall₂ (fun n e => e.Stands n) (numbered 0 items) entries)
    (within : ∀ v ∈ items, v.Within levels) :
    (entries.mapM fun e => decodeWithin levels e.kind e.value.bytes) =
      .ok (items.map Value.received) := by
  have named : (numbered 0 items).map (fun n => n.value.received) = items.map Value.received := by
    conv_rhs => rw [← map_value_numbered 0 items, List.map_map]
    rfl
  rw [← named]
  refine mapM_eq_ok stand fun n mem e stands => ?_
  rw [stands.kind]
  exact reads.ok stands.value (within n.value (mem_items_iff.2 ⟨n, mem, rfl⟩))

theorem mapM_items_eq_error {levels : Nat} {items : List Value} {entries : List Entry}
    (reads : ReadsWithin levels)
    (stand : List.Forall₂ (fun n e => e.Stands n) (numbered 0 items) entries)
    (deep : ∃ v ∈ items, ¬v.Within levels) :
    (entries.mapM fun e => decodeWithin levels e.kind e.value.bytes) = .error .tooDeep := by
  refine mapM_eq_error stand (fun n e stands => ?_) ?_
  · rw [stands.kind]
    by_cases within : n.value.Within levels
    · exact .inl ⟨_, reads.ok stands.value within⟩
    · exact .inr (reads.error stands.value within)
  · obtain ⟨v, mem, below⟩ := deep
    obtain ⟨n, mem, rfl⟩ := mem_items_iff.1 mem
    refine ⟨n, mem, fun e stands => ?_⟩
    rw [stands.kind]
    exact reads.error stands.value below

/-- What is written under a name reads back with any number of `levels` left that its nesting does
not use up, and is nested too deeply otherwise. -/
theorem readsWithin (levels : Nat) : ReadsWithin levels := by
  -- every level of nesting is one level less for the values inside
  induction levels with
  | zero => exact ⟨fun _ within => absurd within Value.not_within_zero, fun _ _ => rfl⟩
  | succ levels ih =>
    constructor
    · intro name v s written within
      cases v with
      | container d =>
        obtain ⟨x, inner, rfl⟩ := Draft.wrap_eq_of_iff.1 written
        have inside := Value.within_container_iff.1 within
        change decodeWithin (levels + 1) .container _ = _
        rw [decodeWithin_container, decodeWith_eq_ok ih inner inside]
        rfl
      | array items =>
        obtain ⟨writable, rfl⟩ := encodeValue_array_iff.1 written
        obtain ⟨entries, stand, scanned⟩ := scan_dataBytes writable
        have inside := Value.within_array_iff.1 within
        change decodeWithin (levels + 1) .array _ = _
        rw [decodeWithin_array scanned, mapM_items_eq_ok ih stand inside, Value.received,
          Value.receivedItems_eq_map]
        rfl
      | _ => exact decodeWithin_literal written ⟨by simp [Value.kind], by simp [Value.kind]⟩
    · intro name v s written deep
      cases v with
      | container d =>
        obtain ⟨x, inner, rfl⟩ := Draft.wrap_eq_of_iff.1 written
        have inside : ∃ n ∈ d.values, ¬n.value.Within levels := by
          simpa using mt Value.within_container_iff.2 deep
        change decodeWithin (levels + 1) .container _ = _
        rw [decodeWithin_container, decodeWith_eq_error ih inner inside]
        rfl
      | array items =>
        obtain ⟨writable, rfl⟩ := encodeValue_array_iff.1 written
        obtain ⟨entries, stand, scanned⟩ := scan_dataBytes writable
        have inside : ∃ v ∈ items, ¬v.Within levels := by
          simpa using mt Value.within_array_iff.2 deep
        change decodeWithin (levels + 1) .array _ = _
        rw [decodeWithin_array scanned, mapM_items_eq_error ih stand inside]
        rfl
      | _ =>
        exact absurd (Value.within_succ_of_flat ⟨by simp [Value.kind], by simp [Value.kind]⟩) deep

/-- A written document reads back as `d.received`, as it comes out of the text format, when none of
its values is nested too deeply. -/
theorem decode_eq_ok_received {d : Document} {s : Bytes} (written : encode d = .of s)
    (within : ∀ n ∈ d.values, n.value.Within (levelsAt 0)) :
    Codec.decode .text s = .ok d.received := by
  change (decodeWith (decodeWithin (levelsAt 0)) s).mapError Fault.error = _
  rw [decodeWith_eq_ok (readsWithin _) written within]
  rfl

/-- A document that can be written is detected; it reads back as `d.received` if no value sits
deeper than `depthLimit`, and is refused otherwise. -/
theorem decode_encode_document {d : Document} {s : Bytes} (written : Codec.encode .text d = .ok s) :
    Format.detect? s = some .text ∧
      ((∀ depth, d.Reaches depth → depth ≤ Document.depthLimit) →
        Codec.decode .text s = .ok d.received) ∧
      ((∃ depth, d.Reaches depth ∧ Document.depthLimit < depth) →
        ∃ reason, Codec.decode .text s = .error (.deserializationFailed reason)) := by
  have draft : encode d = .of s := Draft.finish_eq_ok_iff.1 written
  -- depths count from zero, so there is one level more than the limit
  have levels : levelsAt 0 = Document.depthLimit + 1 := rfl
  refine ⟨?_, fun within => ?_, fun deep => ?_⟩
  · obtain ⟨-, -, rfl⟩ := encode_eq_of_iff.1 draft
    exact detect?_document _
  · have inside := Document.within_iff.1 fun depth reaches =>
      Nat.lt_succ_of_le (within depth reaches)
    have read := decodeWith_eq_ok (readsWithin (levelsAt 0)) draft inside
    change (decodeWith (decodeWithin (levelsAt 0)) s).mapError Fault.error = _
    rw [read]
    rfl
  · obtain ⟨depth, ⟨n, mem, reaches⟩, below⟩ := deep
    have inside : ∃ n ∈ d.values, ¬n.value.Within (levelsAt 0) :=
      ⟨n, mem, fun within => absurd (within depth reaches) (by rw [levels]; omega)⟩
    have read := decodeWith_eq_error (readsWithin (levelsAt 0)) draft inside
    change ∃ reason, (decodeWith (decodeWithin (levelsAt 0)) s).mapError Fault.error = _
    rw [read]
    exact ⟨_, rfl⟩

/-- A document with a container in an array, a repeated name, and an identifier that stays off the
wire. -/
def nestedDocument : Document :=
  ⟨{ sourceId := "a" },
    [⟨"k", .array [.container ⟨{ messageType := "m" }, [⟨"x", .bytes [0x5D]⟩]⟩]⟩, ⟨"k", .null⟩]⟩

theorem decode_encode_nestedDocument :
    Codec.encode .text nestedDocument =
        .ok (headerBytes nestedDocument.header ++ dataBytes nestedDocument.values) ∧
      Codec.decode .text (headerBytes nestedDocument.header ++ dataBytes nestedDocument.values) =
        .ok nestedDocument.received := by
  have written : Codec.encode .text nestedDocument =
      .ok (headerBytes nestedDocument.header ++ dataBytes nestedDocument.values) := by
    decide +kernel
  refine ⟨written, (decode_encode_document written).2.1 fun depth reaches => ?_⟩
  refine Nat.le_of_lt_succ (Document.within_iff.2 (fun n mem => ?_) depth reaches)
  rcases List.mem_cons.1 mem with rfl | mem
  · refine Value.within_array_iff.2 fun v mem => ?_
    obtain rfl := List.mem_singleton.1 mem
    refine Value.within_container_iff.2 fun n mem => ?_
    obtain rfl := List.mem_singleton.1 mem
    exact Value.within_succ_of_flat ⟨by decide, by decide⟩
  · obtain rfl := List.mem_singleton.1 mem
    exact Value.within_succ_of_flat ⟨by decide, by decide⟩

end Delimited

end Parcel
