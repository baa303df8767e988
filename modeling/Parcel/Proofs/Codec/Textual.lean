import Parcel.Codec
import Parcel.Proofs.Delimited.Writing
import Parcel.Proofs.Json.Text
import Parcel.Proofs.Unicode.Segments
import Parcel.Proofs.Xml.Writing

/-!
# Encodings that are text

The text format puts everything but bytes between its delimiters as text, and the delimiters are
ASCII, so its encoding of a document is UTF-8 exactly when the bytes that stand in it as they are
are UTF-8 themselves. Those are the bytes at the top of the document: whatever is inside of a
container or an array is written in hexadecimal. JSON and XML write all bytes in hexadecimal or not
at all, and their encodings are always UTF-8.

## Main results

* `Delimited.isValid_iff_of_encode` — the text format
* `Json.isValid_encode` — JSON
* `Codec.isValid_of_encode` — the formats that are made of characters
-/

namespace Parcel

open Utf8 (isValid isValid_encode isValid_encodeChars isValid_append isValid_append_cons
  isValid_cons isValid_enclosed)

theorem Hex.isValid_encode (s : Bytes) : isValid (Hex.encode s) := by
  rw [Hex.encode_eq_encodeChars]
  exact isValid_encodeChars _

/-! ## The text format -/

namespace Delimited

variable {n : Named} {s : Bytes} {d : Document}

/-- The payload of a value is text, unless the value is of bytes that are not. -/
theorem isValid_payload_iff (writable : Writable n) :
    isValid (payload n) ↔ ∀ x, n.value = .bytes x → isValid x := by
  obtain ⟨name, v⟩ := n
  have written := writable.value
  generalize payload ⟨name, v⟩ = s at written
  -- only bytes are written as they are
  have text (other : ∀ x, v ≠ .bytes x) (valid : isValid s) :
      isValid s ↔ ∀ x, v = .bytes x → isValid x :=
    ⟨fun _ x eq => absurd eq (other x), fun _ => valid⟩
  cases v with
  | null =>
    obtain rfl := Draft.of_injective written
    exact text nofun (isValid_encodeChars [])
  | bool b =>
    obtain rfl := Draft.of_injective written
    exact text nofun (isValid_encode _)
  | integer i =>
    obtain rfl := Draft.of_injective written
    exact text nofun (isValid_encodeChars _)
  | float bits =>
    obtain rfl := Draft.of_injective written
    exact text nofun (isValid_encodeChars _)
  | double bits =>
    obtain rfl := Draft.of_injective written
    exact text nofun (isValid_encodeChars _)
  | string t =>
    obtain ⟨-, rfl⟩ := verbatim_eq_of_iff.1 written
    exact text nofun (isValid_encode t)
  | bytes x =>
    obtain ⟨-, rfl⟩ := verbatim_eq_of_iff.1 written
    constructor
    · rintro valid _ ⟨⟩
      exact valid
    · exact fun each => each s rfl
  | container d =>
    obtain ⟨x, -, rfl⟩ := Draft.wrap_eq_of_iff.1 written
    exact text nofun (Hex.isValid_encode x)
  | array items =>
    obtain ⟨x, -, rfl⟩ := Draft.wrap_eq_of_iff.1 written
    exact text nofun (Hex.isValid_encode x)

theorem isValid_headerBytes (h : Header) : isValid (headerBytes h) := by
  have pair (p : Field × String) : isValid (Bytes.ofChar '[' :: fieldBytes p) := by
    rw [isValid_cons (by decide), fieldBytes, isValid_append_cons (by decide),
      isValid_append (isValid_encode _)]
    exact ⟨isValid_encodeChars _, isValid_encode _⟩
  have pairs (fields : List (Field × String)) :
      isValid (fields.flatMap fun p => Bytes.ofChar '[' :: fieldBytes p) := by
    induction fields with
    | nil => exact isValid_encodeChars []
    | cons p fields ih => exact (isValid_append (pair p)).2 ih
  have mark : isValid Format.headerMark := isValid_encode _
  have opening : isValid openBraces := isValid_encode _
  rw [headerBytes, isValid_append mark, isValid_append opening, isValid_append (pairs _)]
  exact isValid_encode _

/-- A pair of the data block is text when its payload is. -/
theorem isValid_pairBytes_append (n : Named) (rest : Bytes) :
    isValid (Bytes.ofChar '[' :: pairBytes n ++ rest) ↔ isValid (payload n) ∧ isValid rest := by
  have closing : terminator = [Bytes.ofChar ']', Bytes.ofChar ';'] := rfl
  have bytes : Bytes.ofChar '[' :: pairBytes n ++ rest = Bytes.ofChar '[' ::
      (Utf8.encode n.name ++ Bytes.ofChar ',' :: (numeral n.kind.tag ++ Bytes.ofChar ',' ::
        (payload n ++ Bytes.ofChar ']' :: Bytes.ofChar ';' :: rest))) := by
    simp [pairBytes, closing]
  have tag : isValid (numeral n.kind.tag) := isValid_encodeChars _
  rw [bytes, isValid_cons (by decide), isValid_append (isValid_encode _), isValid_cons (by decide),
    isValid_append tag, isValid_cons (by decide), isValid_append_cons (by decide),
    isValid_cons (by decide)]

theorem isValid_dataBytes_iff (values : List Named) :
    isValid (dataBytes values) ↔ ∀ n ∈ values, isValid (payload n) := by
  -- the closing braces are what the last pair is followed by
  have pairs : isValid ((values.flatMap fun n => Bytes.ofChar '[' :: pairBytes n) ++ closeBraces) ↔
      ∀ n ∈ values, isValid (payload n) := by
    induction values with
    | nil => exact iff_of_true (isValid_encode _) (List.forall_mem_nil _)
    | cons n values ih =>
      rw [List.flatMap_cons, List.append_assoc, isValid_pairBytes_append, ih, List.forall_mem_cons]
  have mark : isValid Format.dataMark := isValid_encode _
  have opening : isValid openBraces := isValid_encode _
  rw [dataBytes, isValid_append mark, isValid_append opening, pairs]

/-- The text format makes text of a document exactly when the bytes at its top are text: `isValid`
looks through everything else. -/
theorem isValid_iff_of_encode (written : encode d = .of s) :
    isValid s ↔ ∀ n ∈ d.values, ∀ x, n.value = .bytes x → isValid x := by
  obtain ⟨-, writable, rfl⟩ := encode_eq_of_iff.1 written
  rw [isValid_append (isValid_headerBytes _), isValid_dataBytes_iff]
  exact forall₂_congr fun n mem => isValid_payload_iff (writable n mem)

end Delimited

/-! ## JSON -/

namespace Json

variable {s : Bytes} {items : List Bytes}

theorem ascii_of_mem_escapeByte {b x : UInt8} (ascii : b.toNat < 0x80) (mem : x ∈ escapeByte b) :
    x.toNat < 0x80 := by
  have all : ∀ n < 0x80, ∀ x ∈ escapeByte (UInt8.ofNat n), x.toNat < 0x80 := by decide +kernel
  exact all b.toNat ascii x (by simpa using mem)

/-- A character is escaped as text: one beyond ASCII is left alone, and any other is one byte. -/
theorem isValid_escape_encodeChar (c : Char) : isValid (escape (String.utf8EncodeChar c)) := by
  by_cases wide : 0x80 ≤ c.toNat
  · have plain : ∀ b ∈ String.utf8EncodeChar c, escapeByte b = [b] := by
      intro b mem
      have high := Utf8.le_of_mem_encodeChar wide mem
      exact escapeByte_of_plain (by omega) (by omega) (by omega)
    rw [escape_of_plain plain]
    exact Utf8.isValid_encodeChar c
  · have single := Nat.not_le.1 wide
    rw [Utf8.encodeChar_of_lt single, escape, List.flatMap_singleton]
    refine Utf8.isValid_of_ascii fun x mem => ascii_of_mem_escapeByte ?_ mem
    rw [Utf8.toNat_toUInt8 single]
    exact single

theorem isValid_quote (text : String) : isValid (quote text) := by
  rw [quote, isValid_enclosed (by decide) (by decide), Utf8.encode]
  induction text.toList with
  | nil => exact isValid_encodeChars []
  | cons c cs ih =>
    rw [Utf8.encodeChars_cons, escape, List.flatMap_append]
    exact (isValid_append (isValid_escape_encodeChar c)).2 ih

theorem isValid_joined (each : ∀ item ∈ items, isValid item) : isValid (joined items) := by
  fun_induction joined items with
  | case1 => exact isValid_encodeChars []
  | case2 item => exact each item List.mem_cons_self
  | case3 item rest more ih =>
    obtain ⟨first, others⟩ := List.forall_mem_cons.1 each
    exact (isValid_append_cons (by decide)).2 ⟨first, ih others⟩

theorem isValid_braced (each : ∀ item ∈ items, isValid item) : isValid (braced items) :=
  (isValid_enclosed (by decide) (by decide)).2 (isValid_joined each)

theorem isValid_member (key : String) (valid : isValid s) : isValid (member key s) :=
  (isValid_append_cons (by decide)).2 ⟨isValid_quote key, valid⟩

theorem isValid_encodeDouble (bits : Nat) : isValid (encodeDouble bits) := by
  unfold encodeDouble
  split
  · exact isValid_encodeChars _
  · exact isValid_encode _

mutual

/-- A value is text in JSON. -/
theorem isValid_encodeValue : (v : Value) → isValid (encodeValue v)
  | .null => isValid_encode _
  | .bool _ => isValid_encode _
  | .integer _ => isValid_encodeChars _
  | .float bits => isValid_encodeDouble _
  | .double bits => isValid_encodeDouble _
  | .string text => isValid_quote text
  | .bytes x => (isValid_enclosed (by decide) (by decide)).2 (Hex.isValid_encode x)
  | .container d => by
    rw [encodeValue]
    exact isValid_encode_document d
  | .array items => by
    rw [encodeValue]
    exact (isValid_enclosed (by decide) (by decide)).2 (isValid_joined (isValid_encodeItems items))

theorem isValid_encodeItems : (items : List Value) → ∀ item ∈ encodeItems items, isValid item
  | [] => List.forall_mem_nil _
  | v :: rest => List.forall_mem_cons.2 ⟨isValid_encodeValue v, isValid_encodeItems rest⟩

theorem isValid_encodeMembers : (values : List Named) → ∀ item ∈ encodeMembers values, isValid item
  | [] => List.forall_mem_nil _
  | ⟨name, v⟩ :: rest =>
    List.forall_mem_cons.2 ⟨isValid_member name (isValid_encodeValue v), isValid_encodeMembers rest⟩

/-- A document is text in JSON. -/
theorem isValid_encode_document : (d : Document) → isValid (encode d)
  | ⟨header, values⟩ => by
    have fields : ∀ item ∈ header.wireFields.map fun (field, value) =>
        member field.name (quote value), isValid item := by
      intro item mem
      obtain ⟨p, -, rfl⟩ := List.mem_map.1 mem
      exact isValid_member _ (isValid_quote _)
    rw [encode]
    refine isValid_braced (List.forall_mem_cons.2 ⟨isValid_member _ (isValid_braced fields), ?_⟩)
    exact List.forall_mem_singleton.2
      (isValid_member _ (isValid_braced (isValid_encodeMembers values)))

end

end Json

/-! ## Formats made of characters -/

/-- JSON and XML make text of every document that they can carry. -/
theorem Codec.isValid_of_encode {f : Format} {d : Document} {s : Bytes}
    (characters : f = .json ∨ f = .xml) (written : Codec.encode f d = .ok s) : isValid s := by
  have draft := Draft.finish_eq_ok_iff.1 written
  rcases characters with rfl | rfl
  · obtain rfl := Draft.of_injective draft
    exact Json.isValid_encode_document d
  · obtain ⟨-, rfl⟩ := Xml.encode_eq_of_iff.1 draft
    exact isValid_encodeChars _

end Parcel
