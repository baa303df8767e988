import Parcel.Proofs.Delimited.Writing
import Parcel.Proofs.Header

/-!
# Scanning what was written

A scan of a written document finds the header as it stands on the wire and one entry for each
value, in order, with the name, the kind and the bytes that the value was written with.

## Main definitions

* `Delimited.Entry.Stands` — an entry is where a named value was written
* `Delimited.fieldOf?` — the field that an identifier names

## Main results

* `Delimited.fieldReader_takes_text`, `Delimited.valueReader_takes_trimmed` — the pairs of the two
  blocks
* `Delimited.headerOf_wireFields` — the fields on the wire give the header on the wire
* `Delimited.scan_document`, `Delimited.scan_dataBytes` — scanning a document, and an array
* `Delimited.exists_scan_document_append` — nothing may follow a document
* `Delimited.detect?_document` — a written document is recognised
-/

namespace Parcel.Delimited

variable {h : Header} {values : List Named}

/-- The entry is where the named value `n` was written. -/
structure Entry.Stands (e : Entry) (n : Named) : Prop where
  name : e.name.bytes = Utf8.encode n.name
  kind : e.kind = n.kind
  value : encodeValue n.name n.value = .of e.value.bytes

/-! ## Pairs -/

theorem not_mem_numeral {char : Char} (single : char.toNat < 0x80)
    (other : Decimal.isDigit char = false) (n : Nat) : Bytes.ofChar char ∉ numeral n := by
  intro mem
  obtain ⟨c, found, -, value⟩ := Utf8.exists_of_mem_encodeChars
    (fun c mem => isGraphic_of_isLiteral (isLiteral_of_mem_ofNat mem)) mem
  rw [Utf8.toNat_toUInt8 single] at value
  rw [Char.toNat_inj.1 value, Decimal.isDigit_of_mem_ofNat found] at other
  cases other

theorem text_encode (part : String) (s : String) : text part (Utf8.encode s) = .ok s := by
  rw [text, Utf8.decode_encode]
  rfl

theorem text_numeral (part : String) (n : Nat) :
    text part (numeral n) = .ok (Decimal.text n) := by
  rw [text, numeral, Utf8.decode_encodeChars]
  rfl

theorem isGraphic_of_mem_ofNat {n : Nat} {c : Char} (mem : c ∈ Decimal.ofNat n) :
    Unicode.isGraphic c :=
  isGraphic_of_isLiteral (isLiteral_of_mem_ofNat mem)

theorem ofNumber?_number (field : Field) : Field.ofNumber? field.number = some field := by
  cases field <;> decide

/-- The field that an identifier names. -/
def fieldOf? (id : String) : Option Field :=
  (Decimal.natural? (Unicode.trimChars id.toList)).bind Field.ofNumber?

theorem fieldOf?_text (field : Field) : fieldOf? (Decimal.text field.number) = some field := by
  rw [fieldOf?, Decimal.text, String.toList_ofList,
    Unicode.trimChars_of_isGraphic fun c mem => isGraphic_of_mem_ofNat mem, Decimal.natural?_ofNat,
    Option.bind_some, ofNumber?_number]

theorem numeral_eq_encode (n : Nat) : numeral n = Utf8.encode (Decimal.text n) := by
  rw [numeral, Decimal.text, Utf8.encode, String.toList_ofList]

/-- A header pair is read by `fieldReader` with the field that its identifier names, if any. -/
theorem fieldReader_takes_text {id value : String} (comma : Bytes.ofChar ',' ∉ Utf8.encode id)
    (absent : hasTerminator (Utf8.encode value) = false) :
    fieldReader.Takes (Utf8.encode id ++ Bytes.ofChar ',' :: (Utf8.encode value ++ terminator))
      (· = (fieldOf? id, value)) := by
  intro o y
  have bytes_eq : Utf8.encode id ++ Bytes.ofChar ',' :: (Utf8.encode value ++ terminator) ++ y =
      Utf8.encode id ++ Bytes.ofChar ',' :: (Utf8.encode value ++ (terminator ++ y)) := by simp
  have read : fieldPair ⟨o, Utf8.encode id ++ Bytes.ofChar ',' :: (Utf8.encode value ++
      terminator) ++ y⟩ = .ok ((fieldOf? id, value),
        ⟨o + (Utf8.encode id).length + 1 + (Utf8.encode value).length + 2, y⟩) := by
    simp only [fieldPair, bytes_eq, Cursor.upTo_append comma, Cursor.upToTerminator_append absent,
      text_encode, bind, Except.bind, pure, Except.pure, fieldOf?]
  exact ⟨_, _, rfl, read⟩

theorem fieldReader_takes {p : Field × String}
    (absent : hasTerminator (Utf8.encode p.2) = false) :
    fieldReader.Takes (fieldBytes p) (· = (some p.1, p.2)) := by
  have comma : Bytes.ofChar ',' ∉ numeral p.1.number := not_mem_numeral (by decide) (by decide) _
  rw [numeral_eq_encode] at comma
  rw [fieldBytes, numeral_eq_encode, ← fieldOf?_text]
  exact fieldReader_takes_text comma absent

/-- Names cannot be written with a comma in them. -/
theorem comma_not_mem {name : Bytes} (usable : isName name) : Bytes.ofChar ',' ∉ name := by
  intro mem
  have delimiters := (Bool.and_eq_true_iff.1 usable).2
  rw [List.any_eq_true.2 ⟨_, mem, by decide⟩] at delimiters
  cases delimiters

/-- An entry of a given name, kind and value. -/
structure Entry.Reads (e : Entry) (name : Bytes) (kind : Kind) (value : Bytes) : Prop where
  name : e.name.bytes = name
  kind : e.kind = kind
  value : e.value.bytes = value

/-- A value is read by `valueReader` under its name, with the kind that its trimmed tag names. -/
theorem valueReader_takes_trimmed {name tag value : Bytes} {kind : Kind} (usable : isName name)
    (single : Bytes.ofChar ',' ∉ tag) (trimmed : Bytes.trimBlanks tag = numeral kind.tag)
    (absent : hasTerminator value = false) :
    valueReader.Takes
      (name ++ Bytes.ofChar ',' :: (tag ++ Bytes.ofChar ',' :: (value ++ terminator)))
      (·.Reads name kind value) := by
  intro o y
  have comma := comma_not_mem usable
  have nonempty : name.isEmpty = false := by simpa using (Bool.and_eq_true_iff.1 usable).1
  have bytes_eq :
      name ++ Bytes.ofChar ',' :: (tag ++ Bytes.ofChar ',' :: (value ++ terminator)) ++ y =
        name ++ Bytes.ofChar ',' :: (tag ++ Bytes.ofChar ',' :: (value ++ (terminator ++ y))) := by
    simp
  have named : (Decimal.natural? (Decimal.text kind.tag).toList).bind Kind.ofTag? = some kind := by
    rw [Decimal.text, String.toList_ofList, Decimal.natural?_ofNat, Option.bind_some,
      Kind.ofTag?_tag]
  generalize start_eq : o + name.length + 1 + tag.length + 1 = start
  have read : valuePair ⟨o, name ++ Bytes.ofChar ',' :: (tag ++ Bytes.ofChar ',' :: (value ++
      terminator)) ++ y⟩ =
        .ok (⟨⟨o, name⟩, kind, ⟨start, value⟩⟩, ⟨start + value.length + 2, y⟩) := by
    simp only [valuePair, bytes_eq, Cursor.upTo_append comma, Cursor.upTo_append single,
      Cursor.upToTerminator_append absent, trimmed, text_numeral, bind, Except.bind, named,
      nonempty, start_eq]
    rfl
  exact ⟨_, _, ⟨rfl, rfl, rfl⟩, read⟩

theorem valueReader_takes {n : Named} (writable : Writable n) :
    valueReader.Takes (pairBytes n) (·.Stands n) := by
  have single : Bytes.ofChar ',' ∉ numeral n.kind.tag := not_mem_numeral (by decide) (by decide) _
  have trimmed : Bytes.trimBlanks (numeral n.kind.tag) = numeral n.kind.tag :=
    Bytes.trimBlanks_of_isGraphic fun c mem => isGraphic_of_mem_ofNat mem
  have absent := hasTerminator_of_encodeValue writable.value
  intro o y
  obtain ⟨e, rest, reads, read⟩ :=
    valueReader_takes_trimmed writable.name single trimmed absent o y
  exact ⟨e, rest, ⟨reads.name, reads.kind, by rw [reads.value, writable.value]⟩, read⟩

/-! ## Blocks -/

/-- The fields on the wire give the header on the wire: `headerOf` undoes `wireFields`. -/
theorem headerOf_wireFields (h : Header) :
    headerOf (h.wireFields.map fun p => (some p.1, p.2)) = h.onWire := by
  have fields : (h.wireFields.map fun p => (some p.1, p.2)).filterMap
      (fun (field, value) => field.map (·, value)) = h.wireFields := by
    simp [List.filterMap_map]
  rw [headerOf, fields, Header.setAll_wireFields]

/-- Both marks start visibly. -/
theorem skipBlanks_mark {o : Nat} {mark y : Bytes}
    (eq : mark = Format.headerMark ∨ mark = Format.dataMark) :
    Cursor.skipBlanks ⟨o, mark ++ y⟩ = ⟨o, mark ++ y⟩ := by
  obtain rfl | rfl := eq
  · exact Cursor.skipBlanks_cons (y := Format.headerMark.tail ++ y) (by decide)
  · exact Cursor.skipBlanks_cons (y := Format.dataMark.tail ++ y) (by decide)

theorem headerPart_document (absent : ∀ p ∈ h.wireFields, hasTerminator (Utf8.encode p.2) = false)
    (y : Bytes) :
    ∃ n, headerPart (headerBytes h ++ y) = .ok (some h.onWire, Cursor.skipBlanks ⟨n, y⟩) := by
  obtain ⟨fields, n, related, read⟩ := block_flatMap .header
    (fun p mem => fieldReader_takes (absent p mem)) (0 + Format.headerMark.length) y
  have fields_eq : fields = h.wireFields.map fun p => (some p.1, p.2) := by
    symm
    rw [← List.forall₂_eq_eq_eq, List.forall₂_map_left_iff]
    exact related.imp fun _ _ => Eq.symm
  have bytes_eq : headerBytes h ++ y = Format.headerMark ++ (openBraces ++
      ((h.wireFields.flatMap fun p => Bytes.ofChar '[' :: fieldBytes p) ++
        (closeBraces ++ y))) := by
    simp [headerBytes]
  refine ⟨n, ?_⟩
  unfold headerPart
  simp only [bytes_eq, skipBlanks_mark (.inl rfl), Cursor.eatAll?_append, read, bind, Except.bind,
    pure, Except.pure, fields_eq, headerOf_wireFields]

theorem block_dataBytes (writable : ∀ n ∈ values, Writable n) (o : Nat) (y : Bytes) :
    ∃ entries n c, List.Forall₂ (fun n e => e.Stands n) values entries ∧
      Cursor.eatAll? Format.dataMark ⟨o, dataBytes values ++ y⟩ = some c ∧
        block valueReader .data c = .ok (entries, ⟨n, y⟩) := by
  obtain ⟨entries, n, related, read⟩ := block_flatMap .data
    (fun m mem => valueReader_takes (writable m mem)) (o + Format.dataMark.length) y
  have bytes_eq : dataBytes values ++ y = Format.dataMark ++ (openBraces ++
      ((values.flatMap fun n => Bytes.ofChar '[' :: pairBytes n) ++ (closeBraces ++ y))) := by
    simp [dataBytes]
  rw [bytes_eq]
  exact ⟨entries, n, _, related, Cursor.eatAll?_append, read⟩

/-- Scanning a written document. -/
theorem scan_document (absent : ∀ p ∈ h.wireFields, hasTerminator (Utf8.encode p.2) = false)
    (writable : ∀ n ∈ values, Writable n) :
    ∃ entries, List.Forall₂ (fun n e => e.Stands n) values entries ∧
      scan (headerBytes h ++ dataBytes values) = .ok ⟨h.onWire, entries⟩ := by
  obtain ⟨o, header⟩ := headerPart_document absent (dataBytes values)
  obtain ⟨entries, n, c, related, mark, data⟩ := block_dataBytes writable o []
  rw [List.append_nil] at mark
  have here : Cursor.skipBlanks ⟨o, dataBytes values⟩ = ⟨o, dataBytes values⟩ :=
    skipBlanks_mark (.inr rfl)
  refine ⟨entries, related, ?_⟩
  rw [here] at header
  simp [scan, header, mark, data, bind, Except.bind, pure, Except.pure, Cursor.skipBlanks_nil]

/-- Nothing may follow a written document but white space. -/
theorem exists_scan_document_append
    (absent : ∀ p ∈ h.wireFields, hasTerminator (Utf8.encode p.2) = false)
    (writable : ∀ n ∈ values, Writable n) {b : UInt8} (visible : Bytes.isBlank b = false)
    (y : Bytes) :
    ∃ n, scan (headerBytes h ++ dataBytes values ++ b :: y) = .error (.malformed n .finish) := by
  obtain ⟨o, header⟩ := headerPart_document absent (dataBytes values ++ b :: y)
  obtain ⟨entries, n, c, -, mark, data⟩ := block_dataBytes writable o (b :: y)
  have here : Cursor.skipBlanks ⟨o, dataBytes values ++ b :: y⟩ =
      ⟨o, dataBytes values ++ b :: y⟩ := by
    rw [dataBytes, List.append_assoc]
    exact skipBlanks_mark (.inr rfl)
  rw [here] at header
  refine ⟨n, ?_⟩
  rw [List.append_assoc]
  simp [scan, header, mark, data, bind, Except.bind, pure, Except.pure,
    Cursor.skipBlanks_cons visible]

/-- Scanning the data block of an array. -/
theorem scan_dataBytes (writable : ∀ n ∈ values, Writable n) :
    ∃ entries, List.Forall₂ (fun n e => e.Stands n) values entries ∧
      scan (dataBytes values) = .ok ⟨{}, entries⟩ := by
  obtain ⟨entries, n, c, related, mark, data⟩ := block_dataBytes writable 0 []
  rw [List.append_nil] at mark
  have here : Cursor.skipBlanks ⟨0, dataBytes values⟩ = ⟨0, dataBytes values⟩ :=
    skipBlanks_mark (.inr rfl)
  have headless : Cursor.eatAll? Format.headerMark ⟨0, dataBytes values⟩ = none := rfl
  refine ⟨entries, related, ?_⟩
  simp [scan, headerPart, here, headless, mark, data, bind, Except.bind, pure, Except.pure,
    Cursor.skipBlanks_nil]

/-- A written document is recognised by its first bytes. -/
theorem detect?_document (y : Bytes) : Format.detect? (headerBytes h ++ y) = some .text := by
  rw [headerBytes, List.append_assoc]
  rfl

end Parcel.Delimited
