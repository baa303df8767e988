import Parcel.Codec
import Parcel.Proofs.Header
import Parcel.Proofs.Outcome
import Parcel.Proofs.Value.Nesting
import Parcel.Proofs.Xml.Writing

/-!
# XML carries documents as text

What XML writes it reads back as far as elements can tell: every value that is neither container
nor array comes back as the string it is shown as, and so does an array without items, since no
element without children can be told from a string. A value with a container element as its only
child is a container; the items of arrays have another name, so no array is taken for one.

## Main definitions

* `Xml.canonical` — a document as it comes out of XML
* `Header.trimmed` — a header without white space around its values

## Main results

* `Xml.valueOf_valueElement` — the element of a value gives the value, if no container is too deep
* `Codec.decode_encode_xml` — the round trip of a document
-/

namespace Parcel

/-- The header without white space around its values. -/
def Header.trimmed (h : Header) : Header :=
  ⟨Unicode.trim h.sourceId, Unicode.trim h.sourceSubId, Unicode.trim h.targetId,
    Unicode.trim h.targetSubId, Unicode.trim h.messageType, Unicode.trim h.version⟩

namespace Xml

/-! ## What comes out -/

mutual

/-- A value as it comes out of XML. -/
def canonicalValue : Value → Value
  | .container d => .container (canonical d)
  | .array [] => .string ""
  | .array (v :: rest) => .array (canonicalValue v :: canonicalItems rest)
  | v => .string v.display

/-- Values as they come out of XML. -/
def canonicalItems : List Value → List Value
  | [] => []
  | v :: rest => canonicalValue v :: canonicalItems rest

/-- Named values as they come out of XML. -/
def canonicalNamed : List Named → List Named
  | [] => []
  | ⟨name, v⟩ :: rest => ⟨name, canonicalValue v⟩ :: canonicalNamed rest

/-- A document as it comes out of XML. -/
def canonical : Document → Document
  | ⟨header, values⟩ => ⟨header.onWire.trimmed, canonicalNamed values⟩

end

theorem canonical_eq (d : Document) :
    canonical d = ⟨d.header.onWire.trimmed, canonicalNamed d.values⟩ := by
  obtain ⟨header, values⟩ := d
  rfl

/-! ## Headers -/

/-- The fields on the wire give the header on the wire, `trimmed` of white space around its values.
-/
theorem headerOf_fieldElements (h : Header) :
    headerOf (h.wireFields.map fieldElement) = h.onWire.trimmed := by
  have fields (ps : List (Field × String)) :
      ((ps.map fieldElement).filterMap fun e =>
        (Field.ofName? e.name).map (·, Unicode.trim e.text)) =
          ps.map fun p => (p.1, Unicode.trim p.2) := by
    induction ps with
    | nil => rfl
    | cons p ps ih =>
      rw [List.map_cons, List.filterMap_cons, ih]
      simp only [fieldElement, Element.name, Element.text, Field.ofName?_name]
      rfl
  rw [headerOf, fields]
  -- what is not on the wire is blank on either side
  have blank : Unicode.trim "" = "" := rfl
  cases untyped : h.isUntyped with
  | true => simp [Header.wireFields, Header.onWire, untyped, Header.setAll, Field.all,
      Field.isRouting, Header.set, Header.get, Header.trimmed, blank]
  | false => simp [Header.wireFields, Header.onWire, untyped, Header.setAll, Field.all,
      Field.isRouting, Header.set, Header.get, Header.trimmed]

/-! ## Elements -/

section Elements

variable {depth : Nat} {tag text : String}

/-- Elements are an array unless there is nothing but a container element. -/
theorem valueOf_eq_array (tag text : String) (e : Element) (es : List Element)
    (other : e.name ≠ "container") :
    valueOf depth ⟨tag, text, e :: es⟩ = (itemsOf (depth + 1) (e :: es)).map .array := by
  obtain ⟨name, inner, children⟩ := e
  have other : name ≠ "container" := other
  cases es with
  | nil =>
    rw [valueOf, if_neg other, itemsOf, itemsOf]
    cases valueOf (depth + 1) ⟨name, inner, children⟩ with
    | error fault => rfl
    | ok v => rfl
  | cons second rest =>
    rw [valueOf, itemsOf, itemsOf]
    cases valueOf (depth + 1) ⟨name, inner, children⟩ with
    | error fault => rfl
    | ok v =>
      cases valueOf (depth + 1) second with
      | error fault => rfl
      | ok w =>
        cases itemsOf (depth + 1) rest with
        | error fault => rfl
        | ok vs => rfl

theorem namedOf_cons (depth : Nat) (e : Element) (es : List Element) :
    namedOf depth (e :: es) = do
      let v ← valueOf depth e
      let vs ← namedOf depth es
      return ⟨e.name, v⟩ :: vs := by
  obtain ⟨name, text, children⟩ := e
  rw [namedOf]
  rfl

/-- A document is read as its values are, when it does not sit too deep itself. -/
theorem documentOf_documentElement (depth : Nat) (d : Document) :
    documentOf depth (documentElement d) =
      if Document.depthLimit < depth then .error .tooDeep
      else (namedOf depth (namedElements d.values)).map fun values =>
        ⟨d.header.onWire.trimmed, values⟩ := by
  obtain ⟨header, values⟩ := d
  rw [documentElement, documentOf, if_neg (by decide)]
  have list : valuesAmong depth [headerElement header, ⟨"values", "", namedElements values⟩] =
      namedOf depth (namedElements values) := by
    rw [headerElement, valuesAmong, if_neg (by decide), valuesAmong, if_pos rfl]
  have fields : childrenOf "header"
      [headerElement header, ⟨"values", "", namedElements values⟩] =
        header.wireFields.map fieldElement := rfl
  rw [list, fields, headerOf_fieldElements]

end Elements

/-! ## Values -/

/-- What holds no container always fits, whatever `levels` are left. -/
theorem gives_leaf {v x : Value} {result : Except Fault Value}
    (flat : ∀ depth d, ¬v.HoldsAt depth (.container d)) (levels : Nat) (read : result = .ok x) :
    Gives x (v.ContainersWithin levels) .tooDeep result :=
  .of_eq_ok read fun depth d holds => absurd holds (flat depth d)

mutual

/-- The element of a value gives `canonicalValue v` when no container in it sits too deep. -/
theorem valueOf_valueElement : (v : Value) → ∀ (tag : String) (depth : Nat),
    Gives (canonicalValue v) (v.ContainersWithin (Document.depthLimit - depth)) .tooDeep
      (valueOf depth (valueElement tag v))
  | .null, _, _ => gives_leaf (by rintro _ _ ⟨⟩) _ rfl
  | .bool _, _, _ => gives_leaf (by rintro _ _ ⟨⟩) _ rfl
  | .integer _, _, _ => gives_leaf (by rintro _ _ ⟨⟩) _ rfl
  | .float _, _, _ => gives_leaf (by rintro _ _ ⟨⟩) _ rfl
  | .double _, _, _ => gives_leaf (by rintro _ _ ⟨⟩) _ rfl
  | .string _, _, _ => gives_leaf (by rintro _ _ ⟨⟩) _ rfl
  | .bytes _, _, _ => gives_leaf (by rintro _ _ ⟨⟩) _ rfl
  | .container ⟨header, values⟩, tag, depth => by
    have inside := (namedOf_namedElements values (depth + 1)).map fun values =>
      (⟨header.onWire.trimmed, values⟩ : Document)
    have only : valueOf depth (valueElement tag (.container ⟨header, values⟩)) =
        (documentOf (depth + 1) (documentElement ⟨header, values⟩)).map .container := by
      rw [valueElement, documentElement, valueOf, if_pos rfl]
    rw [only, documentOf_documentElement, canonicalValue, canonical]
    by_cases deep : Document.depthLimit < depth + 1
    · rw [if_pos deep]
      refine ⟨fun fits => ?_, fun _ => rfl⟩
      have := (Value.containersWithin_container_iff.1 fits).1
      omega
    · rw [if_neg deep]
      have levels : Document.depthLimit - depth - 1 = Document.depthLimit - (depth + 1) := by omega
      have positive : 0 < Document.depthLimit - depth := by omega
      have within :
          (Value.container ⟨header, values⟩).ContainersWithin (Document.depthLimit - depth) ↔
            ∀ n ∈ values, n.value.ContainersWithin (Document.depthLimit - (depth + 1)) := by
        rw [Value.containersWithin_container_iff, levels]
        exact and_iff_right positive
      exact (inside.map Value.container).congr within
  | .array [], tag, depth => by
    -- an element with neither children nor text is an empty string
    exact .of_eq_ok rfl (Value.containersWithin_array_iff.2 fun _ mem => by cases mem)
  | .array (v :: rest), tag, depth => by
    -- items are elements of another name than containers
    have inside := (itemsOf_itemElements (v :: rest) (depth + 1)).map Value.array
    have other : (valueElement "item" v).name ≠ "container" := by
      rw [name_valueElement]
      decide
    rw [valueElement, itemElements, valueOf_eq_array tag "" _ _ other, ← itemElements,
      canonicalValue, ← canonicalItems]
    exact inside.congr Value.containersWithin_array_iff

theorem itemsOf_itemElements : (items : List Value) → ∀ (depth : Nat),
    Gives (canonicalItems items) (∀ v ∈ items, v.ContainersWithin (Document.depthLimit - depth))
      .tooDeep (itemsOf depth (itemElements items))
  | [], _ => .of_eq_ok rfl fun _ mem => by cases mem
  | v :: rest, depth => by
    have first := valueOf_valueElement v "item" depth
    have others := itemsOf_itemElements rest depth
    rw [itemElements, itemsOf, canonicalItems]
    exact (first.both others List.cons).congr List.forall_mem_cons

theorem namedOf_namedElements : (values : List Named) → ∀ (depth : Nat),
    Gives (canonicalNamed values)
      (∀ n ∈ values, n.value.ContainersWithin (Document.depthLimit - depth)) .tooDeep
      (namedOf depth (namedElements values))
  | [], _ => .of_eq_ok rfl fun _ mem => by cases mem
  | ⟨name, v⟩ :: rest, depth => by
    have first := valueOf_valueElement v name depth
    have others := namedOf_namedElements rest depth
    have within : (∀ n ∈ (⟨name, v⟩ : Named) :: rest,
        n.value.ContainersWithin (Document.depthLimit - depth)) ↔ _ := List.forall_mem_cons
    rw [namedElements, namedOf_cons, name_valueElement, canonicalNamed]
    exact (first.both others fun w ws => ⟨name, w⟩ :: ws).congr within

end

/-- The element of a document gives `canonical d` when no container in it sits too deep. -/
theorem documentOf_root (d : Document) :
    Gives (canonical d) (∀ n ∈ d.values, n.value.ContainersWithin Document.depthLimit) .tooDeep
      (documentOf 0 (documentElement d)) := by
  have read := (namedOf_namedElements d.values 0).map fun values =>
    (⟨d.header.onWire.trimmed, values⟩ : Document)
  rw [documentOf_documentElement, if_neg (by decide), canonical_eq]
  exact read

end Xml

/-- What XML writes is detected. It is the text of `documentElement`, and reads back as text, as
`Xml.canonical d`, when neither this element nor a container in the document is nested too deeply;
it is refused otherwise. -/
theorem Codec.decode_encode_xml {d : Document} {s : Bytes} (written : Codec.encode .xml d = .ok s) :
    Format.detect? s = some .xml ∧ s = Utf8.encodeChars (Xml.documentElement d).write ∧
      ((Xml.documentElement d).height ≤ Xml.elementDepthLimit →
        (∀ depth e, d.HoldsAt depth (.container e) → depth + 1 ≤ Document.depthLimit) →
          Codec.decode .xml s = .ok (Xml.canonical d)) ∧
      (Xml.elementDepthLimit < (Xml.documentElement d).height ∨
        (∃ depth e, d.HoldsAt depth (.container e) ∧ Document.depthLimit < depth + 1) →
          ∃ reason, Codec.decode .xml s = .error (.deserializationFailed reason)) := by
  obtain ⟨proper, rfl⟩ := Xml.encode_eq_of_iff.1 (Draft.finish_eq_ok_iff.1 written)
  have parsed := Xml.parse_write proper
  have given := Xml.documentOf_root d
  refine ⟨Xml.detect?_write proper, rfl, fun shallow near => ?_, fun deep => ?_⟩
  · have within : ∀ n ∈ d.values, n.value.ContainersWithin Document.depthLimit :=
      fun n mem depth e holds => near depth e ⟨n, mem, holds⟩
    rw [decode, Xml.decode, parsed.1 shallow]
    change (Xml.documentOf 0 (Xml.documentElement d)).mapError _ = _
    rw [given.ok within]
    rfl
  · -- elements are counted while they are parsed, and containers afterwards
    by_cases shallow : (Xml.documentElement d).height ≤ Xml.elementDepthLimit
    · obtain ⟨depth, e, ⟨n, mem, holds⟩, below⟩ := deep.resolve_left (Nat.not_lt.2 shallow)
      have far : ¬∀ n ∈ d.values, n.value.ContainersWithin Document.depthLimit :=
        fun within => absurd (within n mem depth e holds) (by omega)
      rw [decode, Xml.decode, parsed.1 shallow]
      change ∃ reason, (Xml.documentOf 0 (Xml.documentElement d)).mapError _ = _
      rw [given.error far]
      exact ⟨_, rfl⟩
    · obtain ⟨o, refused⟩ := parsed.2 (Nat.lt_of_not_le shallow)
      rw [decode, Xml.decode, refused]
      exact ⟨_, rfl⟩

/-- A document with values named like parts of documents, a container in an array, an array without
items, marks in text, and white space around a message type. -/
def Xml.markedDocument : Document :=
  ⟨{ messageType := " m" },
    [⟨"values", .array [.container ⟨{ sourceId := "a" }, [⟨"header", .string "<&\t"⟩]⟩]⟩,
      ⟨"container", .array []⟩]⟩

theorem Codec.decode_encode_xml_markedDocument :
    Codec.encode .xml Xml.markedDocument =
        .ok (Utf8.encodeChars (Xml.documentElement Xml.markedDocument).write) ∧
      Codec.decode .xml (Utf8.encodeChars (Xml.documentElement Xml.markedDocument).write) =
        .ok (Xml.canonical Xml.markedDocument) := by
  have proper : (Xml.documentElement Xml.markedDocument).Proper := by decide +kernel
  have drafted : Codec.draft .xml Xml.markedDocument =
      .of (Utf8.encodeChars (Xml.documentElement Xml.markedDocument).write) :=
    Xml.encode_eq_of_iff.2 ⟨proper, rfl⟩
  have written := Draft.finish_eq_ok_iff.2 drafted
  have near : ∀ depth e, Xml.markedDocument.HoldsAt depth (.container e) →
      depth + 1 ≤ Document.depthLimit := by
    rintro depth e ⟨n, mem, holds⟩
    simp only [Xml.markedDocument, List.mem_cons, List.not_mem_nil, or_false] at mem
    rcases mem with rfl | rfl
    · cases holds with
      | array mem holds =>
        obtain rfl := List.mem_singleton.1 mem
        cases holds with
        | here => decide
        | container mem holds =>
          obtain rfl := List.mem_singleton.1 mem
          cases holds
    · cases holds with
      | array mem _ => cases mem
  exact ⟨written, (decode_encode_xml written).2.2.1 (by decide +kernel) near⟩

end Parcel
