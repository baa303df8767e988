import Parcel.Proofs.Delimited.Received
import Parcel.Proofs.Json.RoundTrip
import Parcel.Proofs.MessagePack.RoundTrip
import Parcel.Proofs.Xml.RoundTrip

/-!
# Encoding again what was decoded

A relay that decodes a document and sends it on in the same format sends the bytes that it was
sent. What was decoded is not what was encoded: integers have other kinds, nested containers may be
bytes, every scalar may be a string, and the routing identifiers of untyped headers are gone. But a
codec never writes what it does not read back, so the difference does not show in the bytes.

For each format the document that comes out is written like the one that went in. The text format
asks nothing of the document; JSON asks that it holds no finite floating-point number, XML that the
header values it writes have no white space at either end, MessagePack that lengths fit their
prefixes.

## Main definitions

* `Unicode.isTight` — a text without white space at either end
* `Codec.Carries` — what a format asks of a document

## Main results

* `Delimited.encode_received`, `Json.encode_canonical`, `Xml.documentElement_canonical`,
  `MessagePack.encode_canonical` — what comes out is written like what went in
* `Codec.encode_decoded` — the bytes are the same
-/

namespace Parcel

/-! ## Integers and headers -/

theorem Integer.number_narrowed (n : Integer) : n.narrowed.number = n.number := by
  unfold Integer.narrowed
  split
  · rfl
  · split <;> rfl

namespace Header

/-- What `onWire` leaves out is not written by the header without it either. -/
theorem wireFields_onWire (h : Header) : h.onWire.wireFields = h.wireFields := by
  cases untyped : h.isUntyped with
  | false => rw [onWire, untyped]; rfl
  | true =>
    have still : (⟨"", "", "", "", h.messageType, h.version⟩ : Header).isUntyped = true := untyped
    rw [onWire, if_pos untyped, wireFields, wireFields, still, untyped]
    rfl

end Header

/-! ## The delimited text -/

section Text

/-- Everything that denotes no number has the text `NaN`. -/
theorem Number.display_of_isNaN {f : Binary.Format} {bits : Nat} (absent : f.isNaN bits) :
    display f bits = ['N', 'a', 'N'] := by
  rw [display, Binary.Format.read_eq_nan_iff.2 absent]

theorem Number.display_quieted_single (bits : UInt32) :
    display Binary.single (Binary.single.quieted bits.toNat).toUInt32.toNat =
      display Binary.single bits.toNat := by
  rw [Binary.Format.quieted]
  split
  · next absent =>
    rw [display_of_isNaN absent]
    exact display_of_isNaN (by decide)
  · rw [Nat.toUInt32_eq, UInt32.ofNat_toNat]

theorem Number.display_quieted_double (bits : UInt64) :
    display Binary.double (Binary.double.quieted bits.toNat).toUInt64.toNat =
      display Binary.double bits.toNat := by
  rw [Binary.Format.quieted]
  split
  · next absent =>
    rw [display_of_isNaN absent]
    exact display_of_isNaN (by decide)
  · rw [Nat.toUInt64_eq, UInt64.ofNat_toNat]

theorem Value.kind_received (v : Value) : v.received.kind = v.kind := by
  cases v <;> rfl

namespace Delimited

mutual

/-- A value is written like the one that comes out of the text format, `v.received`. -/
theorem encodeValue_received : (v : Value) → ∀ (name : String),
    encodeValue name v.received = encodeValue name v
  | .null, _ | .bool _, _ | .integer _, _ | .string _, _ | .bytes _, _ => rfl
  | .float bits, _ => congrArg (fun cs => Draft.of (Utf8.encodeChars cs))
    (Number.display_quieted_single bits)
  | .double bits, _ => congrArg (fun cs => Draft.of (Utf8.encodeChars cs))
    (Number.display_quieted_double bits)
  | .container d, _ => by rw [Value.received, encodeValue, encodeValue, encode_received d]
  | .array items, _ => by
    rw [Value.received, encodeValue, encodeValue, encodeItems_received items]

theorem encodeItems_received : (items : List Value) → ∀ (index : Nat),
    encodeItems index (Value.receivedItems items) = encodeItems index items
  | [], _ => rfl
  | v :: rest, index => by
    rw [Value.receivedItems, encodeItems, encodeItems, Value.kind_received,
      encodeValue_received v, encodeItems_received rest]

theorem encodeValues_received : (values : List Named) →
    encodeValues (Named.receivedAll values) = encodeValues values
  | [] => rfl
  | ⟨name, v⟩ :: rest => by
    rw [Named.receivedAll, encodeValues, encodeValues, Value.kind_received,
      encodeValue_received v, encodeValues_received rest]

/-- A document is written like the one that comes out of the text format, `d.received`. -/
theorem encode_received : (d : Document) → encode d.received = encode d
  | ⟨header, values⟩ => by
    rw [Document.received, encode, encode, encodeHeader, encodeHeader, Header.wireFields_onWire,
      encodeValues_received values]

end

end Delimited

end Text

/-! ## JSON -/

namespace Json

mutual

/-- A value is written like the one that comes out of JSON, `canonicalValue v`. What is not finite
was written as null. -/
theorem encodeValue_canonical : (v : Value) →
    (∀ depth w, v.HoldsAt depth w → w.isFinite = false) →
      encodeValue (canonicalValue v) = encodeValue v
  | .null, _ | .bool _, _ | .string _, _ => rfl
  | .integer n, _ => by rw [canonicalValue, encodeValue, encodeValue, Integer.number_narrowed]
  | .float bits, real => by
    have infinite := double?_widenByDigits (real 0 _ (.here _))
    rw [canonicalValue, encodeValue, encodeValue, encodeDouble, infinite]
  | .double bits, real => by
    have infinite := double?_eq_none (real 0 _ (.here _))
    rw [canonicalValue, encodeValue, encodeValue, encodeDouble, infinite]
  | .bytes s, _ => quote_text s
  | .container ⟨header, values⟩, real => by
    have inside := encodeMembers_canonical values fun n mem depth w holds =>
      real _ w (.container mem holds)
    rw [canonicalValue, canonical, encodeValue, encodeValue, encode, encode,
      Header.wireFields_onWire, inside]
  | .array items, real => by
    have inside := encodeItems_canonical items fun v mem depth w holds =>
      real _ w (.array mem holds)
    rw [canonicalValue, encodeValue, encodeValue, inside]

theorem encodeItems_canonical : (items : List Value) →
    (∀ v ∈ items, ∀ depth w, v.HoldsAt depth w → w.isFinite = false) →
      encodeItems (canonicalItems items) = encodeItems items
  | [], _ => rfl
  | v :: rest, real => by
    have first := encodeValue_canonical v (real v List.mem_cons_self)
    have others := encodeItems_canonical rest fun w mem => real w (List.mem_cons_of_mem v mem)
    rw [canonicalItems, encodeItems, encodeItems, first, others]

theorem encodeMembers_canonical : (values : List Named) →
    (∀ n ∈ values, ∀ depth w, n.value.HoldsAt depth w → w.isFinite = false) →
      encodeMembers (canonicalNamed values) = encodeMembers values
  | [], _ => rfl
  | ⟨name, v⟩ :: rest, real => by
    have first := encodeValue_canonical v (real ⟨name, v⟩ List.mem_cons_self)
    have others := encodeMembers_canonical rest fun n mem => real n (List.mem_cons_of_mem _ mem)
    rw [canonicalNamed, encodeMembers, encodeMembers, first, others]

end

/-- A document is written like the one that comes out of JSON, `canonical d`. -/
theorem encode_canonical {d : Document} (real : ∀ depth v, d.HoldsAt depth v → v.isFinite = false) :
    encode (canonical d) = encode d := by
  obtain ⟨header, values⟩ := d
  have inside := encodeMembers_canonical values fun n mem depth v holds =>
    real depth v ⟨n, mem, holds⟩
  rw [canonical, encode, encode, Header.wireFields_onWire, inside]

end Json

/-! ## MessagePack -/

namespace MessagePack

theorem length_canonicalItems (items : List Value) :
    (canonicalItems items).length = items.length := by
  induction items with
  | nil => rfl
  | cons v rest ih => rw [canonicalItems, List.length_cons, List.length_cons, ih]

mutual

/-- A value is written like the one that comes out of MessagePack, `canonicalValue v`. A container
is written as the bytes that come out. -/
theorem encodeValue_canonical : (v : Value) → encodeValue (canonicalValue v) = encodeValue v
  | .null | .bool _ | .float _ | .double _ | .string _ | .bytes _ => rfl
  | .integer n => by rw [canonicalValue, encodeValue, encodeValue, Integer.number_narrowed]
  | .container d => by rw [canonicalValue, encodeValue, encodeValue]
  | .array items => by
    rw [canonicalValue, encodeValue, encodeValue, length_canonicalItems,
      encodeItems_canonical items]

theorem encodeItems_canonical : (items : List Value) →
    encodeItems (canonicalItems items) = encodeItems items
  | [] => rfl
  | v :: rest => by
    rw [canonicalItems, encodeItems, encodeItems, encodeValue_canonical v,
      encodeItems_canonical rest]

end

theorem encodeValues_canonical (values : List Named) :
    encodeValues (values.map canonicalNamed) = encodeValues values := by
  induction values with
  | nil => rfl
  | cons n rest ih =>
    obtain ⟨name, v⟩ := n
    rw [List.map_cons, canonicalNamed, encodeValues, encodeValues, encodeValue_canonical, ih]

/-- A document is written like the one that comes out of MessagePack, `canonical d`. -/
theorem encode_canonical (d : Document) : encode (canonical d) = encode d := by
  obtain ⟨header, values⟩ := d
  rw [canonical, encode, encode, Header.wireFields_onWire, encodeValues_canonical, List.length_map]

end MessagePack

/-! ## XML -/

namespace Unicode

/-- Neither the first nor the last character is white space. -/
def isTight (s : String) : Bool := !s.toList.head?.any isBlank && !s.toList.getLast?.any isBlank

theorem dropWhile_of_head? {cs : List Char} (first : cs.head?.any isBlank = false) :
    cs.dropWhile isBlank = cs := by
  cases cs with
  | nil => rfl
  | cons c cs => exact List.dropWhile_cons_of_neg (by simpa using first)

/-- There is nothing to trim. -/
theorem trim_of_isTight {s : String} (tight : isTight s) : trim s = s := by
  simp only [isTight, Bool.and_eq_true, Bool.not_eq_true'] at tight
  obtain ⟨first, last⟩ := tight
  have last : s.toList.reverse.head?.any isBlank = false := by rwa [List.head?_reverse]
  rw [trim, trimChars, dropWhile_of_head? first, dropWhile_of_head? last, List.reverse_reverse,
    String.ofList_toList]

end Unicode

/-- No value of the header that goes on the wire has white space at either end. -/
def Header.Tight (h : Header) : Prop := ∀ p ∈ h.wireFields, Unicode.isTight p.2

instance (h : Header) : Decidable h.Tight :=
  inferInstanceAs (Decidable (∀ p ∈ h.wireFields, Unicode.isTight p.2 = true))

theorem Header.get_onWire (h : Header) (field : Field) :
    h.onWire.get field = if h.isUntyped && field.isRouting then "" else h.get field := by
  cases untyped : h.isUntyped with
  | true => cases field <;> simp [onWire, untyped, get, Field.isRouting]
  | false => simp [onWire, untyped]

/-- Trimming the values that go on the wire changes nothing. -/
theorem Header.trimmed_onWire {h : Header} (tight : h.Tight) : h.onWire.trimmed = h.onWire := by
  have same (field : Field) : Unicode.trim (h.onWire.get field) = h.onWire.get field := by
    rw [get_onWire]
    split
    · rfl
    · next onWire =>
      have written : (field, h.get field) ∈ h.wireFields := by
        refine List.mem_map.2 ⟨field, List.mem_filter.2 ⟨by cases field <;> decide, ?_⟩, rfl⟩
        rw [Bool.not_eq_true', ← Bool.not_eq_true]
        exact onWire
      have fieldTight : Unicode.isTight (h.get field) := tight (field, h.get field) written
      exact Unicode.trim_of_isTight fieldTight
  generalize h.onWire = w at same
  obtain ⟨_, _, _, _, _, _⟩ := w
  rw [trimmed, Header.mk.injEq]
  exact ⟨same .sourceId, same .sourceSubId, same .targetId, same .targetSubId, same .messageType,
    same .version⟩

namespace Xml

mutual

/-- The element of a value is that of the value that comes out of XML, `canonicalValue v`. -/
theorem valueElement_canonical : (v : Value) → (∀ e, v.HasPart e → e.header.Tight) →
    ∀ (tag : String), valueElement tag (canonicalValue v) = valueElement tag v
  | .null, _, _ | .bool _, _, _ | .integer _, _, _ | .float _, _, _ | .double _, _, _
  | .string _, _, _ | .bytes _, _, _ => rfl
  | .array [], _, _ => rfl
  | .array (v :: rest), tight, _ => by
    have inside := itemElements_canonical (v :: rest) fun w mem e part =>
      tight e (Value.hasPart_array_iff.2 ⟨w, mem, part⟩)
    rw [canonicalValue, valueElement, valueElement, ← canonicalItems, inside]
  | .container d, tight, _ => by
    rw [canonicalValue, valueElement, valueElement, documentElement_canonical d tight]

theorem itemElements_canonical : (items : List Value) →
    (∀ v ∈ items, ∀ e, v.HasPart e → e.header.Tight) →
      itemElements (canonicalItems items) = itemElements items
  | [], _ => rfl
  | v :: rest, tight => by
    have first := valueElement_canonical v (tight v List.mem_cons_self) "item"
    have others := itemElements_canonical rest fun w mem => tight w (List.mem_cons_of_mem v mem)
    rw [canonicalItems, itemElements, itemElements, first, others]

theorem namedElements_canonical : (values : List Named) →
    (∀ n ∈ values, ∀ e, n.value.HasPart e → e.header.Tight) →
      namedElements (canonicalNamed values) = namedElements values
  | [], _ => rfl
  | ⟨name, v⟩ :: rest, tight => by
    have first := valueElement_canonical v (tight ⟨name, v⟩ List.mem_cons_self) name
    have others := namedElements_canonical rest fun n mem => tight n (List.mem_cons_of_mem _ mem)
    rw [canonicalNamed, namedElements, namedElements, first, others]

/-- The element of a document is that of the document that comes out of XML, `canonical d`. -/
theorem documentElement_canonical : (d : Document) → (∀ e, d.HasPart e → e.header.Tight) →
    documentElement (canonical d) = documentElement d
  | ⟨header, values⟩, tight => by
    have here : header.Tight := tight _ (.refl _)
    have inside := namedElements_canonical values fun n mem e part =>
      tight e (Document.hasPart_iff.2 (.inr ⟨n, mem, part⟩))
    rw [canonical, documentElement, documentElement, inside, headerElement, headerElement,
      Header.trimmed_onWire here, Header.wireFields_onWire]

end

end Xml

/-! ## All formats -/

namespace Codec

/-- What a format asks of a document, so that it can tell what it has read from what it cannot
carry: JSON that no floating-point number is finite, XML that no header value it writes has white
space at either end, MessagePack that lengths fit in four bytes, and the delimited text nothing. -/
def Carries : Format → Document → Prop
  | .text, _ => True
  | .json, d => ∀ depth v, d.HoldsAt depth v → v.isFinite = false
  | .xml, d => ∀ e, d.HasPart e → e.header.Tight
  | .msgpack, d => ∀ n ∈ MessagePack.lengths d, n < 2 ^ 32

variable {f : Format} {d read : Document} {s : Bytes}

theorem encode_decoded_json (carries : Carries .json d) (written : encode .json d = .ok s)
    (decoded : decode .json s = .ok read) : encode .json read = .ok s := by
  obtain rfl : Json.encode d = s := Except.ok.inj written
  rw [decode, Json.decode?_encode carries, Json.ifRoom] at decoded
  split at decoded
  · next come found =>
    obtain rfl := Except.ok.inj decoded
    split at found
    · obtain rfl := Option.some.inj found
      rw [encode, draft, Json.encode_canonical carries]
      rfl
    · cases found
  · cases decoded

theorem encode_decoded_xml (carries : Carries .xml d) (written : encode .xml d = .ok s)
    (decoded : decode .xml s = .ok read) : encode .xml read = .ok s := by
  obtain ⟨proper, rfl⟩ := Xml.encode_eq_of_iff.1 (Draft.finish_eq_ok_iff.1 written)
  have parsed := Xml.parse_write proper
  have decoded := Except.eq_ok_of_mapError_eq_ok decoded
  rw [Xml.decode] at decoded
  by_cases shallow : (Xml.documentElement d).height ≤ Xml.elementDepthLimit
  · rw [parsed.1 shallow] at decoded
    obtain rfl := (Xml.documentOf_root d).eq_of_eq_ok decoded
    -- the two documents have the same element, and the bytes are those of the element
    rw [← Xml.documentElement_canonical d carries] at proper ⊢
    exact Draft.finish_eq_ok_iff.2 (Xml.encode_eq_of_iff.2 ⟨proper, rfl⟩)
  · obtain ⟨o, refused⟩ := parsed.2 (Nat.lt_of_not_le shallow)
    rw [refused] at decoded
    cases decoded

theorem encode_decoded_msgpack (carries : Carries .msgpack d)
    (written : encode .msgpack d = .ok s) (decoded : decode .msgpack s = .ok read) :
    encode .msgpack read = .ok s := by
  have gives := MessagePack.gives_decode_encode carries
  obtain rfl : MessagePack.encode d = s := Draft.of_injective (Draft.finish_eq_ok_iff.1 written)
  obtain rfl := gives.eq_of_eq_ok (Except.eq_ok_of_mapError_eq_ok decoded)
  rw [encode, draft, MessagePack.encode_canonical]
  rfl

/-- What was decoded from an encoding `s` is encoded as `s` again, if the format `Carries` the
document. -/
theorem encode_decoded (carries : Carries f d) (written : encode f d = .ok s)
    (decoded : decode f s = .ok read) : encode f read = .ok s := by
  cases f with
  | text =>
    obtain rfl := Delimited.eq_received_of_decode written decoded
    rw [← written]
    exact congrArg Draft.finish (Delimited.encode_received d)
  | json => exact encode_decoded_json carries written decoded
  | xml => exact encode_decoded_xml carries written decoded
  | msgpack => exact encode_decoded_msgpack carries written decoded

/-- An untyped document with a routing identifier, an array without items, and a short integer in a
container. -/
def relayed : Document :=
  ⟨{ sourceId := "a" },
    [⟨"k", .array []⟩,
      ⟨"m", .container ⟨{ messageType := "t" }, [⟨"n", .integer ⟨.ushort, 7, by decide⟩⟩]⟩⟩]⟩

/-- No format brings it back as it was, and every format encodes again what it was encoded as. -/
theorem encode_decoded_relayed :
    (∃ s read, encode .text relayed = .ok s ∧ decode .text s = .ok read ∧
      encode .text read = .ok s) ∧
    (∃ s read, encode .json relayed = .ok s ∧ decode .json s = .ok read ∧
      encode .json read = .ok s) ∧
    (∃ s read, encode .xml relayed = .ok s ∧ decode .xml s = .ok read ∧
      encode .xml read = .ok s) ∧
    (∃ s read, encode .msgpack relayed = .ok s ∧ decode .msgpack s = .ok read ∧
      encode .msgpack read = .ok s) := by
  -- that `relayed` is read back at all is computed; the rest is the theorem
  have restored {f : Format} (carries : Carries f relayed)
      (comes : ((encode f relayed).bind (decode f)).isOk) :
      ∃ s read, encode f relayed = .ok s ∧ decode f s = .ok read ∧ encode f read = .ok s := by
    cases written : encode f relayed with
    | error e => rw [written] at comes; cases comes
    | ok s =>
      rw [written] at comes
      cases decoded : decode f s with
      | error e => change (decode f s).isOk at comes; rw [decoded] at comes; cases comes
      | ok read => exact ⟨s, read, rfl, decoded, encode_decoded carries written decoded⟩
  -- there are no floats in it
  have real : Carries .json relayed := by
    rintro depth v ⟨n, mem, holds⟩
    simp only [relayed, List.mem_cons, List.not_mem_nil, or_false] at mem
    rcases mem with rfl | rfl
    · cases holds with
      | here => rfl
      | array mem => cases mem
    · cases holds with
      | here => rfl
      | container mem holds =>
        obtain rfl := List.mem_singleton.1 mem
        cases holds
        rfl
  have tight : Carries .xml relayed := by
    rintro e ⟨depth, holds⟩
    cases holds with
    | here => decide +kernel
    | container mem holds =>
      simp only [relayed, List.mem_cons, List.not_mem_nil, or_false] at mem
      rcases mem with rfl | rfl
      · cases holds with
        | array mem => cases mem
      · cases holds with
        | here => decide +kernel
        | container mem holds =>
          obtain rfl := List.mem_singleton.1 mem
          cases holds
  have short : Carries .msgpack relayed := by
    change ∀ n ∈ MessagePack.lengths relayed, n < 2 ^ 32
    decide +kernel
  exact ⟨restored trivial (by decide +kernel), restored real (by decide +kernel),
    restored tight (by decide +kernel), restored short (by decide +kernel)⟩

end Codec

end Parcel
