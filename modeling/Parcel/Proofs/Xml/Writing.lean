import Parcel.Proofs.Draft
import Parcel.Proofs.Xml.Parser

/-!
# Documents as XML elements

What is written for a document is the text of an element that can be built from the document alone.
A document can be written exactly when all names in this element can be.

## Main definitions

* `Xml.valueElement`, `Xml.documentElement` — the element of a value, and of a document

## Main results

* `Xml.encodeDocument_eq_ok_iff` — a document is written as its element
* `Xml.encode_eq_of_iff` — and so are the bytes of a document
-/

namespace Parcel.Xml

/-! ## Elements of values -/

/-- A header field as an element. -/
def fieldElement (p : Field × String) : Element := ⟨p.1.name, p.2, []⟩

/-- A header as an element. -/
def headerElement (h : Header) : Element := ⟨"header", "", h.wireFields.map fieldElement⟩

mutual

/-- A value as an element of the given name. -/
def valueElement (tag : String) : Value → Element
  | .container d => ⟨tag, "", [documentElement d]⟩
  | .array items => ⟨tag, "", itemElements items⟩
  | v => ⟨tag, v.display, []⟩

/-- The items of an array as elements. -/
def itemElements : List Value → List Element
  | [] => []
  | v :: rest => valueElement "item" v :: itemElements rest

/-- Named values as elements. -/
def namedElements : List Named → List Element
  | [] => []
  | ⟨name, v⟩ :: rest => valueElement name v :: namedElements rest

/-- A document as an element. -/
def documentElement : Document → Element
  | ⟨header, values⟩ =>
    ⟨"container", "", [headerElement header, ⟨"values", "", namedElements values⟩]⟩

end

theorem name_valueElement (tag : String) (v : Value) : (valueElement tag v).name = tag := by
  cases v <;> rfl

/-! ## Results -/

section Results

variable {α β : Type} {ε : Type} {r : Except ε α} {f : α → β} {b : β}

theorem map_eq_ok_iff : r.map f = .ok b ↔ ∃ a, r = .ok a ∧ b = f a := by
  cases r with
  | ok a => simp [Except.map, eq_comm]
  | error e => simp [Except.map]

/-- Of two texts one after the other both are written. -/
theorem append_eq_ok_iff {r r' : Except ε (List β)} {bs : List β} :
    (do
      let x ← r
      let y ← r'
      return x ++ y : Except ε (List β)) = .ok bs ↔
      ∃ x y, r = .ok x ∧ r' = .ok y ∧ bs = x ++ y := by
  cases r with
  | error e => simp [bind, Except.bind]
  | ok x =>
    cases r' with
    | error e => simp [bind, Except.bind]
    | ok y => simp [bind, Except.bind, pure, Except.pure, eq_comm]

end Results

/-! ## What is written -/

theorem isName_name (field : Field) : isName field.name.toList := by
  cases field <;> decide

theorem isName_item : isName "item".toList := by decide

theorem write_headerElement (h : Header) : (headerElement h).write = encodeHeader h := by
  have fields (ps : List (Field × String)) : writeAll (ps.map fieldElement) =
      ps.flatMap fun p => wrapped p.1.name.toList (escape p.2.toList) := by
    induction ps with
    | nil => rfl
    | cons p ps ih =>
      rw [List.map_cons, writeAll, ih, fieldElement, Element.write, writeAll, List.append_nil]
      rfl
  rw [headerElement, Element.write, fields]
  rfl

theorem proper_headerElement (h : Header) : (headerElement h).Proper := by
  have fields (ps : List (Field × String)) : ProperAll (ps.map fieldElement) := by
    induction ps with
    | nil => trivial
    | cons p ps ih => exact ⟨⟨isName_name p.1, .inl rfl, trivial⟩, ih⟩
  exact ⟨by decide, .inr rfl, fields _⟩

/-- The name of an element that can be written. -/
theorem Element.Proper.isName_name {e : Element} (proper : e.Proper) : isName e.name.toList := by
  obtain ⟨name, text, children⟩ := e
  exact proper.1

/-- What has no children is written as its text. -/
theorem leaf_eq_ok_iff {tag text : String} (valid : isName tag.toList) {cs : List Char} :
    (.ok (wrapped tag.toList (escape text.toList)) : Except Error (List Char)) = .ok cs ↔
      (Element.mk tag text []).Proper ∧ cs = (Element.mk tag text []).write := by
  rw [Element.write, writeAll, List.append_nil]
  constructor
  · rintro ⟨⟩
    exact ⟨⟨valid, .inl rfl, trivial⟩, rfl⟩
  · rintro ⟨-, rfl⟩
    rfl

/-- What has no text is written as its children. -/
theorem proper_node_iff {tag : String} (valid : isName tag.toList) {children : List Element} :
    (Element.mk tag "" children).Proper ↔ ProperAll children :=
  ⟨fun proper => proper.2.2, fun proper => ⟨valid, .inr rfl, proper⟩⟩

theorem write_node (tag : String) (children : List Element) :
    (Element.mk tag "" children).write = wrapped tag.toList (writeAll children) := by
  rw [Element.write]
  rfl

mutual

/-- A value is written as `valueElement` when that is `Proper`: when the names in it can be written.
-/
theorem encodeValue_eq_ok_iff : (v : Value) → ∀ {tag : String}, isName tag.toList →
    ∀ {cs : List Char}, encodeValue tag.toList v = .ok cs ↔
      (valueElement tag v).Proper ∧ cs = (valueElement tag v).write
  | .null, _, valid, _ => leaf_eq_ok_iff valid
  | .bool _, _, valid, _ => leaf_eq_ok_iff valid
  | .integer _, _, valid, _ => leaf_eq_ok_iff valid
  | .float _, _, valid, _ => leaf_eq_ok_iff valid
  | .double _, _, valid, _ => leaf_eq_ok_iff valid
  | .string _, _, valid, _ => leaf_eq_ok_iff valid
  | .bytes _, _, valid, _ => leaf_eq_ok_iff valid
  | .container d, tag, valid, cs => by
    rw [encodeValue, map_eq_ok_iff, valueElement, proper_node_iff valid, write_node, writeAll,
      writeAll, List.append_nil]
    constructor
    · rintro ⟨x, inner, rfl⟩
      obtain ⟨proper, rfl⟩ := (encodeDocument_eq_ok_iff d).1 inner
      exact ⟨⟨proper, trivial⟩, rfl⟩
    · rintro ⟨⟨proper, -⟩, rfl⟩
      exact ⟨_, (encodeDocument_eq_ok_iff d).2 ⟨proper, rfl⟩, rfl⟩
  | .array items, tag, valid, cs => by
    rw [encodeValue, map_eq_ok_iff, valueElement, proper_node_iff valid, write_node]
    constructor
    · rintro ⟨x, inner, rfl⟩
      obtain ⟨proper, rfl⟩ := (encodeItems_eq_ok_iff items).1 inner
      exact ⟨proper, rfl⟩
    · rintro ⟨proper, rfl⟩
      exact ⟨_, (encodeItems_eq_ok_iff items).2 ⟨proper, rfl⟩, rfl⟩

theorem encodeItems_eq_ok_iff : (items : List Value) → ∀ {cs : List Char},
    encodeItems items = .ok cs ↔
      ProperAll (itemElements items) ∧ cs = writeAll (itemElements items)
  | [], cs => by
    rw [encodeItems, itemElements, writeAll, ProperAll]
    exact ⟨fun written => ⟨trivial, (Except.ok.inj written).symm⟩, fun ⟨_, eq⟩ => eq ▸ rfl⟩
  | v :: rest, cs => by
    rw [encodeItems, append_eq_ok_iff, itemElements, writeAll, ProperAll]
    constructor
    · rintro ⟨x, y, first, others, rfl⟩
      obtain ⟨proper, rfl⟩ := (encodeValue_eq_ok_iff v isName_item).1 first
      obtain ⟨proper', rfl⟩ := (encodeItems_eq_ok_iff rest).1 others
      exact ⟨⟨proper, proper'⟩, rfl⟩
    · rintro ⟨⟨proper, proper'⟩, rfl⟩
      exact ⟨_, _, (encodeValue_eq_ok_iff v isName_item).2 ⟨proper, rfl⟩,
        (encodeItems_eq_ok_iff rest).2 ⟨proper', rfl⟩, rfl⟩

theorem encodeValues_eq_ok_iff : (values : List Named) → ∀ {cs : List Char},
    encodeValues values = .ok cs ↔
      ProperAll (namedElements values) ∧ cs = writeAll (namedElements values)
  | [], cs => by
    rw [encodeValues, namedElements, writeAll, ProperAll]
    exact ⟨fun written => ⟨trivial, (Except.ok.inj written).symm⟩, fun ⟨_, eq⟩ => eq ▸ rfl⟩
  | ⟨name, v⟩ :: rest, cs => by
    rw [encodeValues, namedElements, writeAll, ProperAll]
    by_cases valid : isName name.toList
    · rw [if_pos valid, append_eq_ok_iff]
      constructor
      · rintro ⟨x, y, first, others, rfl⟩
        obtain ⟨proper, rfl⟩ := (encodeValue_eq_ok_iff v valid).1 first
        obtain ⟨proper', rfl⟩ := (encodeValues_eq_ok_iff rest).1 others
        exact ⟨⟨proper, proper'⟩, rfl⟩
      · rintro ⟨⟨proper, proper'⟩, rfl⟩
        exact ⟨_, _, (encodeValue_eq_ok_iff v valid).2 ⟨proper, rfl⟩,
          (encodeValues_eq_ok_iff rest).2 ⟨proper', rfl⟩, rfl⟩
    · -- the element has the name that is refused
      rw [if_neg valid]
      constructor
      · rintro ⟨⟩
      · rintro ⟨⟨proper, -⟩, -⟩
        have named := proper.isName_name
        rw [name_valueElement] at named
        exact absurd named valid

/-- A document is written as `documentElement` when that is `Proper`: when the names in it can be
written. -/
theorem encodeDocument_eq_ok_iff : (d : Document) → ∀ {cs : List Char},
    encodeDocument d = .ok cs ↔ (documentElement d).Proper ∧ cs = (documentElement d).write
  | ⟨header, values⟩, cs => by
    have container : isName "container".toList := by decide
    have list : isName "values".toList := by decide
    have content : writeAll [headerElement header, ⟨"values", "", namedElements values⟩] =
        encodeHeader header ++ wrapped valuesTag (writeAll (namedElements values)) := by
      rw [writeAll, writeAll, writeAll, List.append_nil, write_headerElement, write_node]
      rfl
    rw [encodeDocument, map_eq_ok_iff, documentElement, proper_node_iff container, write_node,
      content]
    constructor
    · rintro ⟨x, inner, rfl⟩
      obtain ⟨proper, rfl⟩ := (encodeValues_eq_ok_iff values).1 inner
      exact ⟨⟨proper_headerElement header, (proper_node_iff list).2 proper, trivial⟩, rfl⟩
    · rintro ⟨⟨-, proper, -⟩, rfl⟩
      exact ⟨_, (encodeValues_eq_ok_iff values).2 ⟨(proper_node_iff list).1 proper, rfl⟩, rfl⟩

end

/-- The bytes of a document are those of its `documentElement`. -/
theorem encode_eq_of_iff {d : Document} {s : Bytes} : encode d = .of s ↔
    (documentElement d).Proper ∧ s = Utf8.encodeChars (documentElement d).write := by
  unfold encode
  cases written : encodeDocument d with
  | error e =>
    constructor
    · rintro ⟨⟩
    · rintro ⟨proper, -⟩
      rw [(encodeDocument_eq_ok_iff d).2 ⟨proper, rfl⟩] at written
      cases written
  | ok cs =>
    obtain ⟨proper, rfl⟩ := (encodeDocument_eq_ok_iff d).1 written
    constructor
    · intro same
      exact ⟨proper, (Draft.of_injective same).symm⟩
    · rintro ⟨-, rfl⟩
      rfl

end Parcel.Xml
