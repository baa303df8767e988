import Parcel.Format
import Parcel.Proofs.Json.Numeral

/-!
# Documents as JSON trees

What is written for a document is the text of a tree that can be built from the document without
looking at bytes. Since the strings and numbers of this tree follow the grammar, the text of every
document parses, whatever is in it and however deep.

## Main definitions

* `Json.valueTree`, `Json.documentTree` — the tree of a value, and of a document

## Main results

* `Json.encode_eq_write` — a document is written as its tree
* `Json.parse?_encode` — the text of a document holds its tree
* `Json.detect?_encode` — the text of a document is recognised
-/

namespace Parcel.Json

/-! ## Trees of values -/

/-- A text as a tree. -/
def textTree (s : String) : Tree := .string (escape (Utf8.encode s))

/-- The number that characters are the text of. -/
def numeralOf (cs : List Char) : Numeral :=
  ((number? (Utf8.encodeChars cs)).map Prod.fst).getD default

/-- A double as a tree; null when it is not finite. -/
def doubleTree (bits : Nat) : Tree :=
  match double? bits with
  | some cs => .number (numeralOf cs)
  | none => .null

/-- A header as a tree. -/
def headerTree (h : Header) : Tree :=
  .object (h.wireFields.map fun p => ⟨escape (Utf8.encode p.1.name), textTree p.2⟩)

mutual

/-- A value as a tree. -/
def valueTree : Value → Tree
  | .null => .null
  | .bool b => .bool b
  | .integer n => .number (integerNumeral n.number)
  | .float bits => doubleTree (widenByDigits bits.toNat)
  | .double bits => doubleTree bits.toNat
  | .string s => textTree s
  | .bytes s => textTree (Hex.text s)
  | .container d => documentTree d
  | .array items => .array (itemTrees items)

/-- The items of an array as trees. -/
def itemTrees : List Value → List Tree
  | [] => []
  | v :: rest => valueTree v :: itemTrees rest

/-- Named values as members. -/
def memberTrees : List Named → List Member
  | [] => []
  | ⟨name, v⟩ :: rest => ⟨escape (Utf8.encode name), valueTree v⟩ :: memberTrees rest

/-- A document as a tree. -/
def documentTree : Document → Tree
  | ⟨header, values⟩ => .object
    [⟨escape (Utf8.encode "header"), headerTree header⟩,
      ⟨escape (Utf8.encode "values"), .object (memberTrees values)⟩]

end

/-! ## What is written -/

theorem write_textTree (s : String) : (textTree s).write = quote s := rfl

theorem numeralOf_eq {cs : List Char} {n : Numeral} (proper : n.Proper)
    (text : n.write = Utf8.encodeChars cs) : numeralOf cs = n := by
  have read : number? (n.write ++ []) = some (n, []) :=
    number?_write proper fun _ mem => by cases mem
  rw [List.append_nil, text] at read
  rw [numeralOf, read]
  rfl

theorem write_doubleTree (bits : Nat) : (doubleTree bits).write = encodeDouble bits := by
  unfold doubleTree encodeDouble
  cases finite : double? bits with
  | none => rfl
  | some cs =>
    obtain ⟨n, proper, text⟩ := isNumeral_double? finite
    change (numeralOf cs).write = _
    rw [numeralOf_eq proper text, text]

theorem write_headerTree (h : Header) : (headerTree h).write =
    braced (h.wireFields.map fun (field, value) => member field.name (quote value)) := by
  have members (fields : List (Field × String)) :
      writeMembers (fields.map fun p => ⟨escape (Utf8.encode p.1.name), textTree p.2⟩) =
        fields.map fun (field, value) => member field.name (quote value) := by
    induction fields with
    | nil => rfl
    | cons p fields ih =>
      rw [List.map_cons, writeMembers, ih]
      rfl
  rw [headerTree, Tree.write, members]

mutual

theorem encodeValue_eq_write : (v : Value) → encodeValue v = (valueTree v).write
  | .null => rfl
  | .bool b => rfl
  | .integer n => by
    rw [encodeValue, valueTree, Tree.write, write_integerNumeral]
  | .float bits => (write_doubleTree _).symm
  | .double bits => (write_doubleTree _).symm
  | .string s => (write_textTree s).symm
  | .bytes s => (quote_text s).symm
  | .container d => encode_eq_write d
  | .array items => by
    rw [encodeValue, valueTree, Tree.write, encodeItems_eq_write items]

theorem encodeItems_eq_write :
    (items : List Value) → encodeItems items = writeItems (itemTrees items)
  | [] => rfl
  | v :: rest => by
    rw [encodeItems, itemTrees, writeItems, encodeValue_eq_write v, encodeItems_eq_write rest]

theorem encodeMembers_eq_write : (values : List Named) →
    encodeMembers values = writeMembers (memberTrees values)
  | [] => rfl
  | ⟨name, v⟩ :: rest => by
    rw [encodeMembers, memberTrees, writeMembers, encodeValue_eq_write v,
      encodeMembers_eq_write rest]
    rfl

/-- A document is written as its `documentTree`. -/
theorem encode_eq_write : (d : Document) → encode d = (documentTree d).write
  | ⟨header, values⟩ => by
    rw [encode, documentTree, Tree.write, writeMembers, writeMembers, writeMembers,
      write_headerTree, Tree.write, encodeMembers_eq_write values]
    rfl

end

/-! ## The grammar -/

theorem closed_escape (s : Bytes) : Closed (escape s) := fun y => string?_escape s y

theorem proper_doubleTree (bits : Nat) : (doubleTree bits).Proper := by
  unfold doubleTree
  cases finite : double? bits with
  | none => trivial
  | some cs =>
    obtain ⟨n, proper, text⟩ := isNumeral_double? finite
    change (numeralOf cs).Proper
    rw [numeralOf_eq proper text]
    exact proper

theorem proper_headerTree (h : Header) : (headerTree h).Proper := by
  change ProperMembers _
  generalize h.wireFields = fields
  induction fields with
  | nil => trivial
  | cons p fields ih => exact ⟨closed_escape _, closed_escape _, ih⟩

mutual

theorem proper_valueTree : (v : Value) → (valueTree v).Proper
  | .null => trivial
  | .bool _ => trivial
  | .integer n => proper_integerNumeral n.number
  | .float _ => proper_doubleTree _
  | .double _ => proper_doubleTree _
  | .string _ => closed_escape _
  | .bytes _ => closed_escape _
  | .container d => proper_documentTree d
  | .array items => proper_itemTrees items

theorem proper_itemTrees : (items : List Value) → ProperItems (itemTrees items)
  | [] => trivial
  | v :: rest => ⟨proper_valueTree v, proper_itemTrees rest⟩

theorem proper_memberTrees : (values : List Named) → ProperMembers (memberTrees values)
  | [] => trivial
  | ⟨_, v⟩ :: rest => ⟨closed_escape _, proper_valueTree v, proper_memberTrees rest⟩

/-- The strings and numbers of a document follow the grammar: its tree is `Proper`. -/
theorem proper_documentTree : (d : Document) → (documentTree d).Proper
  | ⟨header, values⟩ =>
    ⟨closed_escape _, proper_headerTree header, closed_escape _, proper_memberTrees values, trivial⟩

end

/-- The text of a document holds its `documentTree`. -/
theorem parse?_encode (d : Document) : parse? (encode d) = some (documentTree d) := by
  rw [encode_eq_write, parse?_write (proper_documentTree d)]

/-- The text of a document is recognised. -/
theorem detect?_encode (d : Document) : Format.detect? (encode d) = some .json := by
  obtain ⟨header, values⟩ := d
  rw [encode]
  rfl

end Parcel.Json
