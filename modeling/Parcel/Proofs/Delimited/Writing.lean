import Parcel.Proofs.Delimited.Scanning
import Parcel.Proofs.Draft
import Parcel.Proofs.Hex
import Parcel.Proofs.Number.Display

/-!
# What the text format writes

A document that can be written is the header block and the data block of its pairs, one after the
other. No payload contains the end of a pair: strings and bytes are refused if they do, and every
other payload is a literal of visible characters without a closing bracket.

## Main definitions

* `Delimited.isLiteral` — the characters of literals
* `Delimited.fieldBytes`, `Delimited.pairBytes` — the pairs of the two blocks
* `Delimited.Writable` — a value with a name that the text format can carry
* `Delimited.numbered` — the items of an array under their positions

## Main results

* `Delimited.hasTerminator_of_encodeValue` — no payload contains the end of a pair
* `Delimited.encode_eq_of_iff` — the bytes of a document
-/

namespace Parcel.Delimited

open Unicode (isGraphic)

/-! ## Literals -/

/-- The characters of literals: visible ASCII characters other than a closing bracket. -/
def isLiteral (c : Char) : Bool := isGraphic c && c != ']'

section Literal

variable {c : Char} {cs : List Char}

theorem isGraphic_of_isLiteral (literal : isLiteral c) : isGraphic c :=
  (Bool.and_eq_true_iff.1 literal).1

/-- A literal does not contain the end of a pair. -/
theorem hasTerminator_encodeChars (literal : ∀ c ∈ cs, isLiteral c) :
    hasTerminator (Utf8.encodeChars cs) = false := by
  refine hasTerminator_eq_false fun mem => ?_
  obtain ⟨c, found, -, value⟩ := Utf8.exists_of_mem_encodeChars
    (fun c mem => isGraphic_of_isLiteral (literal c mem)) mem
  have bracket : c = ']' := Char.toNat_inj.1 value.symm
  have different := (Bool.and_eq_true_iff.1 (literal c found)).2
  rw [bracket] at different
  exact absurd different (by decide)

theorem isLiteral_of_isDigit (digit : Decimal.isDigit c) : isLiteral c := by
  have range := Decimal.isDigit_iff.1 digit
  refine Bool.and_eq_true_iff.2 ⟨Unicode.isGraphic_iff.2 (by omega), ?_⟩
  rw [bne_iff_ne]
  rintro rfl
  exact absurd digit (by decide)

theorem isLiteral_of_mem_ofNat {n : Nat} (mem : c ∈ Decimal.ofNat n) : isLiteral c :=
  isLiteral_of_isDigit (Decimal.isDigit_of_mem_ofNat mem)

theorem isLiteral_of_mem_ofInt {n : Int} (mem : c ∈ Decimal.ofInt n) : isLiteral c := by
  cases n with
  | ofNat n => exact isLiteral_of_mem_ofNat mem
  | negSucc n =>
    rcases List.mem_cons.1 mem with rfl | mem
    · decide
    · exact isLiteral_of_mem_ofNat mem

theorem isLiteral_of_isDisplayed (displayed : Number.isDisplayed c) : isLiteral c := by
  rcases Bool.or_eq_true_iff.1 displayed with digit | mem
  · exact isLiteral_of_isDigit digit
  · have all : ['-', '.', 'i', 'n', 'f', 'N', 'a'].all isLiteral = true := by decide
    exact List.all_eq_true.1 all c (List.contains_iff_mem.1 mem)

theorem isLiteral_of_mem_display {f : Binary.Format} {bits : Nat}
    (mem : c ∈ Number.display f bits) : isLiteral c :=
  isLiteral_of_isDisplayed (List.all_eq_true.1 Number.all_isDisplayed_display c mem)

theorem isLiteral_of_mem_hex {s : Bytes} (mem : c ∈ Hex.chars s) : isLiteral c := by
  have range := Hex.toNat_of_mem_chars mem
  refine Bool.and_eq_true_iff.2 ⟨Hex.isGraphic_of_mem_chars mem, ?_⟩
  rw [bne_iff_ne]
  rintro rfl
  revert range
  decide

end Literal

/-! ## Payloads -/

section Payload

variable {name : String} {s : Bytes}

theorem verbatim_eq_of_iff {x : Bytes} :
    verbatim name x = .of s ↔ hasTerminator x = false ∧ s = x := by
  rw [verbatim]
  cases hasTerminator x <;> simp [Draft.of, Draft.stop, eq_comm]

theorem hasTerminator_hex (x : Bytes) : hasTerminator (Hex.encode x) = false := by
  rw [Hex.encode_eq_encodeChars]
  exact hasTerminator_encodeChars fun c mem => isLiteral_of_mem_hex mem

/-- No payload that `encodeValue` writes contains the end of a pair. -/
theorem hasTerminator_of_encodeValue {v : Value} (written : encodeValue name v = .of s) :
    hasTerminator s = false := by
  -- literals and digits have no bracket at all; texts and bytes have been searched for it
  cases v with
  | null =>
    obtain rfl := Draft.of_injective written
    rfl
  | bool b =>
    obtain rfl := Draft.of_injective written
    cases b <;> decide
  | integer n =>
    obtain rfl := Draft.of_injective written
    exact hasTerminator_encodeChars fun c mem => isLiteral_of_mem_ofInt mem
  | float bits =>
    obtain rfl := Draft.of_injective written
    exact hasTerminator_encodeChars fun c mem => isLiteral_of_mem_display mem
  | double bits =>
    obtain rfl := Draft.of_injective written
    exact hasTerminator_encodeChars fun c mem => isLiteral_of_mem_display mem
  | string text =>
    obtain ⟨absent, rfl⟩ := verbatim_eq_of_iff.1 written
    exact absent
  | bytes x =>
    obtain ⟨absent, rfl⟩ := verbatim_eq_of_iff.1 written
    exact absent
  | container d =>
    obtain ⟨x, -, rfl⟩ := Draft.wrap_eq_of_iff.1 written
    exact hasTerminator_hex x
  | array items =>
    obtain ⟨x, -, rfl⟩ := Draft.wrap_eq_of_iff.1 written
    exact hasTerminator_hex x

end Payload

/-! ## Documents -/

/-- A header pair without its opening bracket. -/
def fieldBytes (p : Field × String) : Bytes :=
  numeral p.1.number ++ Bytes.ofChar ',' :: (Utf8.encode p.2 ++ terminator)

/-- The bytes that a value is written as. -/
def payload (n : Named) : Bytes := (encodeValue n.name n.value).bytes

/-- A pair of the data block without its opening bracket. -/
def pairBytes (n : Named) : Bytes :=
  Utf8.encode n.name ++ Bytes.ofChar ',' ::
    (numeral n.kind.tag ++ Bytes.ofChar ',' :: (payload n ++ terminator))

/-- The text format can carry the value and its name. -/
structure Writable (n : Named) : Prop where
  name : isName (Utf8.encode n.name)
  value : encodeValue n.name n.value = .of (payload n)

/-- The header and data blocks of a document. -/
def headerBytes (h : Header) : Bytes :=
  Format.headerMark ++ (openBraces ++
    ((h.wireFields.flatMap fun p => Bytes.ofChar '[' :: fieldBytes p) ++ closeBraces))

/-- The data block of named values. -/
def dataBytes (values : List Named) : Bytes :=
  Format.dataMark ++ (openBraces ++
    ((values.flatMap fun n => Bytes.ofChar '[' :: pairBytes n) ++ closeBraces))

section Document

variable {s : Bytes}

theorem encodeFields_eq_of_iff {fields : List (Field × String)} :
    encodeFields fields = .of s ↔
      (∀ p ∈ fields, hasTerminator (Utf8.encode p.2) = false) ∧
        s = fields.flatMap fun p => Bytes.ofChar '[' :: fieldBytes p := by
  induction fields generalizing s with
  | nil =>
    constructor
    · intro written
      exact ⟨by simp, (Draft.of_injective written).symm⟩
    · rintro ⟨-, rfl⟩
      rfl
  | cons p fields ih =>
    obtain ⟨field, value⟩ := p
    rw [encodeFields, Draft.append_eq_of_iff, List.forall_mem_cons, List.flatMap_cons]
    constructor
    · rintro ⟨_, _, required, body, rfl⟩
      obtain ⟨absent, rfl⟩ := Draft.require_eq_of_iff.1 required
      obtain ⟨_, _, written, rest, rfl⟩ := Draft.append_eq_of_iff.1 body
      obtain ⟨others, rfl⟩ := ih.1 rest
      obtain rfl := Draft.of_injective written
      refine ⟨⟨by simpa using absent, others⟩, ?_⟩
      simp [fieldBytes]
    · rintro ⟨⟨absent, others⟩, rfl⟩
      refine ⟨[], _, Draft.require_eq_of_iff.2 ⟨by simpa using absent, rfl⟩,
        Draft.append_eq_of_iff.2 ⟨_, _, rfl, ih.2 ⟨others, rfl⟩, rfl⟩, ?_⟩
      simp [fieldBytes]

theorem encodePair_eq_of_iff {name : String} {v : Value} :
    encodePair name v.kind (encodeValue name v) = .of s ↔
      Writable ⟨name, v⟩ ∧ s = Bytes.ofChar '[' :: pairBytes ⟨name, v⟩ := by
  rw [encodePair, Draft.append_eq_of_iff]
  constructor
  · rintro ⟨_, _, required, pair, rfl⟩
    obtain ⟨usable, rfl⟩ := Draft.require_eq_of_iff.1 required
    obtain ⟨_, _, opening, rest, rfl⟩ := Draft.append_eq_of_iff.1 pair
    obtain ⟨x, _, written, closing, rfl⟩ := Draft.append_eq_of_iff.1 rest
    obtain rfl := Draft.of_injective opening
    obtain rfl := Draft.of_injective closing
    have bytes_eq : payload ⟨name, v⟩ = x := congrArg Draft.bytes written
    refine ⟨⟨usable, by rw [bytes_eq]; exact written⟩, ?_⟩
    simp [pairBytes, bytes_eq, Named.kind]
  · rintro ⟨writable, rfl⟩
    refine ⟨[], _, Draft.require_eq_of_iff.2 ⟨writable.name, rfl⟩,
      Draft.append_eq_of_iff.2 ⟨_, _, rfl,
        Draft.append_eq_of_iff.2 ⟨_, _, writable.value, rfl, rfl⟩, rfl⟩, ?_⟩
    simp [pairBytes, Named.kind]

theorem encodeValues_eq_of_iff {values : List Named} :
    encodeValues values = .of s ↔
      (∀ n ∈ values, Writable n) ∧ s = values.flatMap fun n => Bytes.ofChar '[' :: pairBytes n := by
  induction values generalizing s with
  | nil =>
    constructor
    · intro written
      exact ⟨by simp, (Draft.of_injective written).symm⟩
    · rintro ⟨-, rfl⟩
      rfl
  | cons n values ih =>
    obtain ⟨name, v⟩ := n
    rw [encodeValues, Draft.append_eq_of_iff, List.forall_mem_cons, List.flatMap_cons]
    constructor
    · rintro ⟨_, _, first, rest, rfl⟩
      obtain ⟨writable, rfl⟩ := encodePair_eq_of_iff.1 first
      obtain ⟨others, rfl⟩ := ih.1 rest
      exact ⟨⟨writable, others⟩, rfl⟩
    · rintro ⟨⟨writable, others⟩, rfl⟩
      exact ⟨_, _, encodePair_eq_of_iff.2 ⟨writable, rfl⟩, ih.2 ⟨others, rfl⟩, rfl⟩

theorem encodeHeader_eq_of_iff {h : Header} :
    encodeHeader h = .of s ↔
      (∀ p ∈ h.wireFields, hasTerminator (Utf8.encode p.2) = false) ∧ s = headerBytes h := by
  rw [encodeHeader, Draft.append_eq_of_iff]
  constructor
  · rintro ⟨_, _, opening, rest, rfl⟩
    obtain ⟨_, _, fields, closing, rfl⟩ := Draft.append_eq_of_iff.1 rest
    obtain ⟨absent, rfl⟩ := encodeFields_eq_of_iff.1 fields
    obtain rfl := Draft.of_injective opening
    obtain rfl := Draft.of_injective closing
    exact ⟨absent, List.append_assoc ..⟩
  · rintro ⟨absent, rfl⟩
    exact ⟨_, _, rfl, Draft.append_eq_of_iff.2
      ⟨_, _, encodeFields_eq_of_iff.2 ⟨absent, rfl⟩, rfl, rfl⟩, (List.append_assoc ..).symm⟩

theorem dataBlock_eq_of_iff {values : List Named} :
    dataBlock (encodeValues values) = .of s ↔
      (∀ n ∈ values, Writable n) ∧ s = dataBytes values := by
  rw [dataBlock, Draft.append_eq_of_iff]
  constructor
  · rintro ⟨_, _, opening, rest, rfl⟩
    obtain ⟨_, _, pairs, closing, rfl⟩ := Draft.append_eq_of_iff.1 rest
    obtain ⟨writable, rfl⟩ := encodeValues_eq_of_iff.1 pairs
    obtain rfl := Draft.of_injective opening
    obtain rfl := Draft.of_injective closing
    exact ⟨writable, List.append_assoc ..⟩
  · rintro ⟨writable, rfl⟩
    exact ⟨_, _, rfl, Draft.append_eq_of_iff.2
      ⟨_, _, encodeValues_eq_of_iff.2 ⟨writable, rfl⟩, rfl, rfl⟩, (List.append_assoc ..).symm⟩

/-- The bytes of a document that can be written. -/
theorem encode_eq_of_iff {d : Document} :
    encode d = .of s ↔
      (∀ p ∈ d.header.wireFields, hasTerminator (Utf8.encode p.2) = false) ∧
        (∀ n ∈ d.values, Writable n) ∧ s = headerBytes d.header ++ dataBytes d.values := by
  obtain ⟨h, values⟩ := d
  rw [encode, Draft.append_eq_of_iff]
  constructor
  · rintro ⟨_, _, header, data, rfl⟩
    obtain ⟨absent, rfl⟩ := encodeHeader_eq_of_iff.1 header
    obtain ⟨writable, rfl⟩ := dataBlock_eq_of_iff.1 data
    exact ⟨absent, writable, rfl⟩
  · rintro ⟨absent, writable, rfl⟩
    exact ⟨_, _, encodeHeader_eq_of_iff.2 ⟨absent, rfl⟩,
      dataBlock_eq_of_iff.2 ⟨writable, rfl⟩, rfl⟩

end Document

/-- The items of an array under their positions from `index` on. -/
def numbered (index : Nat) : List Value → List Named
  | [] => []
  | v :: rest => ⟨Decimal.text index, v⟩ :: numbered (index + 1) rest

theorem encodeItems_eq (index : Nat) (items : List Value) :
    encodeItems index items = encodeValues (numbered index items) := by
  induction items generalizing index with
  | nil => rfl
  | cons v items ih => rw [encodeItems, numbered, encodeValues, ih]

theorem map_value_numbered (index : Nat) (items : List Value) :
    (numbered index items).map Named.value = items := by
  induction items generalizing index with
  | nil => rfl
  | cons v items ih => rw [numbered, List.map_cons, ih]

theorem mem_items_iff {index : Nat} {items : List Value} {v : Value} :
    v ∈ items ↔ ∃ n ∈ numbered index items, n.value = v := by
  rw [← List.mem_map, map_value_numbered]

end Parcel.Delimited
