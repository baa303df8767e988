import Parcel.Codec
import Parcel.Proofs.Header
import Parcel.Proofs.Json.Writing
import Parcel.Proofs.Value.Nesting

/-!
# JSON carries documents up to kinds

What JSON writes it reads back as far as JSON can tell: integers come back with the narrowest kind
that holds their number, bytes as the text of their digits, and floating-point numbers that are not
finite as null. The text is refused exactly when it opens too many brackets within one another.
Every nested container opens two, so the limit for nested containers is never met before that.

## Main definitions

* `Json.canonical` — a document as it comes out of JSON
* `Json.Tree.brackets` — how many brackets a tree opens within one another
* `Json.ifRoom` — what comes of something when there is room for its brackets
* `Value.isFinite` — a floating-point number that is finite

## Main results

* `Json.valueOf?_valueTree` — the tree of a value gives the value, if there is room for its brackets
* `Json.decode?_encode` — and so does the text of a document
* `Codec.decode_encode_json` — the round trip of a document
-/

namespace Parcel

/-- Whether a value is a floating-point number that is finite. -/
def Value.isFinite : Value → Bool
  | .float bits => match Binary.single.read bits.toNat with
    | .finite .. => true
    | _ => false
  | .double bits => match Binary.double.read bits.toNat with
    | .finite .. => true
    | _ => false
  | _ => false

namespace Json

/-! ## What comes out -/

mutual

/-- A value as it comes out of JSON, where no floating-point number is finite. -/
def canonicalValue : Value → Value
  | .integer n => .integer n.narrowed
  | .float _ => .null
  | .double _ => .null
  | .bytes s => .string (Hex.text s)
  | .container d => .container (canonical d)
  | .array items => .array (canonicalItems items)
  | v => v

/-- Values as they come out of JSON. -/
def canonicalItems : List Value → List Value
  | [] => []
  | v :: rest => canonicalValue v :: canonicalItems rest

/-- Named values as they come out of JSON. -/
def canonicalNamed : List Named → List Named
  | [] => []
  | ⟨name, v⟩ :: rest => ⟨name, canonicalValue v⟩ :: canonicalNamed rest

/-- A document as it comes out of JSON. -/
def canonical : Document → Document
  | ⟨header, values⟩ => ⟨header.onWire, canonicalNamed values⟩

end

mutual

/-- How many brackets a tree opens within one another. -/
def Tree.brackets : Tree → Nat
  | .array items => itemBrackets items + 1
  | .object members => memberBrackets members + 1
  | _ => 0

/-- How many brackets the items of an array open within one another. -/
def itemBrackets : List Tree → Nat
  | [] => 0
  | item :: rest => max item.brackets (itemBrackets rest)

/-- How many brackets the members of an object open within one another. -/
def memberBrackets : List Member → Nat
  | [] => 0
  | ⟨_, value⟩ :: rest => max value.brackets (memberBrackets rest)

end

/-! ## Room for brackets -/

section Room

variable {α β γ : Type} {room : Nat}

/-- What comes of something that opens so many `brackets` within one another: `a` if there is `room`
for them. -/
def ifRoom (room brackets : Nat) (a : α) : Option α := if brackets ≤ room then some a else none

theorem map_ifRoom (brackets : Nat) (a : α) (f : α → β) :
    (ifRoom room brackets a).map f = ifRoom room brackets (f a) := by
  unfold ifRoom
  by_cases fits : brackets ≤ room
  · rw [if_pos fits, if_pos fits]
    rfl
  · rw [if_neg fits, if_neg fits]
    rfl

/-- Of two things next to each other, both need `room`. -/
theorem ifRoom_both (n m : Nat) (a : α) (b : β) (f : α → β → γ) :
    (do
      let a ← ifRoom room n a
      let b ← ifRoom room m b
      return f a b) = ifRoom room (max n m) (f a b) := by
  unfold ifRoom
  by_cases first : n ≤ room
  · by_cases second : m ≤ room
    · rw [if_pos first, if_pos second, if_pos (Nat.max_le.2 ⟨first, second⟩)]
      rfl
    · rw [if_pos first, if_neg second, if_neg fun fits => second (Nat.max_le.1 fits).2]
      rfl
  · rw [if_neg first, if_neg fun fits => first (Nat.max_le.1 fits).1]
    rfl

/-- A bracket leaves one less of `room` for what it encloses. -/
theorem ifRoom_succ (brackets : Nat) (a : α) :
    (if room = 0 then none else ifRoom (room - 1) brackets a) = ifRoom room (brackets + 1) a := by
  cases room with
  | zero => rfl
  | succ room =>
    have iff : brackets ≤ room ↔ brackets + 1 ≤ room + 1 := Nat.succ_le_succ_iff.symm
    rw [if_neg (Nat.succ_ne_zero room), Nat.add_sub_cancel, ifRoom, ifRoom]
    exact if_congr iff rfl rfl

end Room

/-! ## Floating-point numbers -/

/-- What is not finite has no text. -/
theorem double?_eq_none {bits : UInt64} (infinite : (Value.double bits).isFinite = false) :
    double? bits.toNat = none := by
  unfold double?
  cases read : Binary.double.read bits.toNat with
  | finite negative m e =>
    rw [Value.isFinite, read] at infinite
    cases infinite
  | nan => rfl
  | infinite negative => rfl

/-- A single that is not finite is written with a word, which denotes no finite double either. -/
theorem double?_widenByDigits {bits : UInt32} (infinite : (Value.float bits).isFinite = false) :
    double? (widenByDigits bits.toNat) = none := by
  unfold widenByDigits Number.display
  cases read : Binary.single.read bits.toNat with
  | finite negative m e =>
    rw [Value.isFinite, read] at infinite
    cases infinite
  | nan => decide
  | infinite negative => cases negative <;> decide

/-! ## Headers -/

/-- Different fields are set one after the other. -/
theorem headerMembers_fields {fields : List (Field × String)} {h : Header} {seen : List Field}
    (distinct : (fields.map Prod.fst).Nodup) (fresh : ∀ p ∈ fields, p.1 ∉ seen) :
    headerMembers h seen (fields.map fun p => ⟨escape (Utf8.encode p.1.name), textTree p.2⟩) =
      some (h.setAll fields) := by
  induction fields generalizing h seen with
  | nil => rfl
  | cons p fields ih =>
    obtain ⟨field, value⟩ := p
    obtain ⟨(unseen : seen.contains field = false), distinct, fresh⟩ :=
      Header.fresh_tail distinct fresh
    have value_eq : asText? (textTree value) = some value := text?_escape value
    rw [List.map_cons, headerMembers, text?_escape]
    simp only [bind, Option.bind, Field.ofName?_name, unseen, value_eq, ih distinct fresh]
    rfl

theorem headerOf?_headerTree (room : Nat) (h : Header) :
    headerOf? room (headerTree h) = ifRoom room 1 h.onWire := by
  rw [headerTree, headerOf?, headerMembers_fields h.nodup_wireFields fun _ _ => List.not_mem_nil,
    Header.setAll_wireFields]
  exact ifRoom_succ 0 h.onWire

/-- The values of a header have no brackets. -/
theorem brackets_headerTree (h : Header) : (headerTree h).brackets = 1 := by
  have flat (fields : List (Field × String)) : memberBrackets
      (fields.map fun p => ⟨escape (Utf8.encode p.1.name), textTree p.2⟩) = 0 := by
    induction fields with
    | nil => rfl
    | cons p fields ih =>
      rw [List.map_cons, memberBrackets, ih]
      rfl
  rw [headerTree, Tree.brackets, flat]

/-! ## Values -/

/-- The members of a document. -/
def documentMembers (d : Document) : List Member :=
  [⟨escape (Utf8.encode "header"), headerTree d.header⟩,
    ⟨escape (Utf8.encode "values"), .object (memberTrees d.values)⟩]

theorem documentTree_eq (d : Document) : documentTree d = .object (documentMembers d) := by
  obtain ⟨header, values⟩ := d
  rfl

theorem canonical_eq (d : Document) :
    canonical d = ⟨d.header.onWire, canonicalNamed d.values⟩ := by
  obtain ⟨header, values⟩ := d
  rfl

/-- A document is read as its values are. -/
theorem documentOf?_documentMembers {d : Document} {room depth : Nat}
    (inside : namedOf? (room - 1) depth (memberTrees d.values) =
      ifRoom (room - 1) (memberBrackets (memberTrees d.values)) (canonicalNamed d.values)) :
    documentOf? room depth .empty (documentMembers d) =
      ifRoom room (memberBrackets (documentMembers d)) (canonical d) := by
  have brackets : memberBrackets (documentMembers d) =
      max 1 (memberBrackets (memberTrees d.values) + 1) := by
    rw [documentMembers, memberBrackets, memberBrackets, memberBrackets, brackets_headerTree,
      Tree.brackets, Nat.max_zero]
  have values : valuesOf? room depth (.object (memberTrees d.values)) =
      ifRoom room (memberBrackets (memberTrees d.values) + 1) (canonicalNamed d.values) := by
    rw [valuesOf?, inside, ifRoom_succ]
  have other : "values" ≠ "header" := by decide
  rw [brackets, canonical_eq, ← ifRoom_both, ← headerOf?_headerTree, ← values, documentMembers]
  simp only [documentOf?, text?_escape, bind, Option.bind, if_true, if_neg other]
  rfl

mutual

/-- The tree of a value gives the value when there is `room` for its brackets. Every container opens
two of them, so that as long as there is room the limit for nested containers is far. -/
theorem valueOf?_valueTree : (v : Value) →
    (∀ depth w, v.HoldsAt depth w → w.isFinite = false) → ∀ (room depth : Nat),
      (0 < room → room + 2 * depth ≤ bracketLimit) → valueOf? room depth (valueTree v) =
        ifRoom room (valueTree v).brackets (canonicalValue v)
  | .null, _, _, _, _ => rfl
  | .bool _, _, _, _, _ => rfl
  | .integer n, _, _, _, _ => value?_integerNumeral n
  -- null is written for what has no text
  | .float bits, real, _, _, _ => by
    have infinite := double?_widenByDigits (real 0 _ (.here _))
    rw [valueTree, doubleTree, infinite]
    rfl
  | .double bits, real, _, _, _ => by
    have infinite := double?_eq_none (real 0 _ (.here _))
    rw [valueTree, doubleTree, infinite]
    rfl
  | .string s, _, _, _, _ => congrArg (Option.map _) (text?_escape s)
  | .bytes s, _, _, _, _ => congrArg (Option.map _) (text?_escape (Hex.text s))
  | .array items, real, room, depth, far => by
    have inside := itemsOf?_itemTrees items
      (fun item mem depth w holds => real _ w (.array mem holds)) (room - 1) depth (by omega)
    rw [valueTree, valueOf?, Tree.brackets, canonicalValue, inside, map_ifRoom, ifRoom_succ]
  | .container ⟨header, values⟩, real, room, depth, far => by
    have inside := namedOf?_memberTrees values
      (fun n mem depth w holds => real _ w (.container mem holds)) (room - 1 - 1) (depth + 1)
      (by omega)
    -- each of 64 containers would have opened two of the brackets that are allowed
    have shallow : room = 0 ∨ Document.depthLimit ≤ depth ↔ room = 0 := by
      rw [Document.depthLimit]
      rw [bracketLimit] at far
      omega
    rw [valueTree, documentTree_eq, valueOf?, Tree.brackets, canonicalValue,
      documentOf?_documentMembers inside, map_ifRoom, if_congr shallow rfl rfl, ifRoom_succ]

theorem itemsOf?_itemTrees : (items : List Value) →
    (∀ v ∈ items, ∀ depth w, v.HoldsAt depth w → w.isFinite = false) → ∀ (room depth : Nat),
      (0 < room → room + 2 * depth ≤ bracketLimit) → itemsOf? room depth (itemTrees items) =
        ifRoom room (itemBrackets (itemTrees items)) (canonicalItems items)
  | [], _, _, _, _ => rfl
  | v :: rest, real, room, depth, far => by
    have first := valueOf?_valueTree v (real v List.mem_cons_self) room depth far
    have others := itemsOf?_itemTrees rest (fun w mem => real w (List.mem_cons_of_mem v mem)) room
      depth far
    rw [itemTrees, itemsOf?, itemBrackets, canonicalItems, first, others]
    exact ifRoom_both _ _ _ _ List.cons

theorem namedOf?_memberTrees : (values : List Named) →
    (∀ n ∈ values, ∀ depth w, n.value.HoldsAt depth w → w.isFinite = false) →
      ∀ (room depth : Nat), (0 < room → room + 2 * depth ≤ bracketLimit) →
        namedOf? room depth (memberTrees values) =
          ifRoom room (memberBrackets (memberTrees values)) (canonicalNamed values)
  | [], _, _, _, _ => rfl
  | ⟨name, v⟩ :: rest, real, room, depth, far => by
    -- names are kept whatever they are, so nothing is asked of them
    have first := valueOf?_valueTree v (real ⟨name, v⟩ List.mem_cons_self) room depth far
    have others := namedOf?_memberTrees rest (fun n mem => real n (List.mem_cons_of_mem _ mem)) room
      depth far
    rw [memberTrees, namedOf?, memberBrackets, canonicalNamed, text?_escape, first, others]
    exact ifRoom_both _ _ _ _ fun w ws => (⟨name, w⟩ : Named) :: ws

end

/-! ## Documents -/

/-- The text of a document gives `canonical d` when it opens no more brackets than `bracketLimit`.
-/
theorem decode?_encode {d : Document} (real : ∀ depth v, d.HoldsAt depth v → v.isFinite = false) :
    decode? (encode d) = ifRoom bracketLimit (documentTree d).brackets (canonical d) := by
  have inside := namedOf?_memberTrees d.values
    (fun n mem depth v holds => real depth v ⟨n, mem, holds⟩) (bracketLimit - 1 - 1) 0 (by decide)
  have positive : bracketLimit ≠ 0 := by decide
  rw [decode?, parse?_encode, documentTree_eq, Tree.brackets, ← ifRoom_succ, if_neg positive]
  exact documentOf?_documentMembers inside

end Json

/-- What JSON writes is detected. It reads back up to kinds, as `Json.canonical d`, when no more
brackets are open at once than `bracketLimit`, and is refused otherwise, in the words of the JSON
library. -/
theorem Codec.decode_encode_json {d : Document}
    (real : ∀ depth v, d.HoldsAt depth v → v.isFinite = false) :
    ∃ s t, Codec.encode .json d = .ok s ∧ Format.detect? s = some .json ∧ Json.parse? s = some t ∧
      (t.brackets ≤ Json.bracketLimit → Codec.decode .json s = .ok (Json.canonical d)) ∧
        (Json.bracketLimit < t.brackets →
          Codec.decode .json s =
            .error (.deserializationFailed (.quoted "JSON: " (.json s)))) := by
  refine ⟨Json.encode d, Json.documentTree d, rfl, Json.detect?_encode d, Json.parse?_encode d,
    ?_, ?_⟩
  · intro fits
    rw [decode, Json.decode?_encode real, Json.ifRoom, if_pos fits]
  · intro deep
    rw [decode, Json.decode?_encode real, Json.ifRoom, if_neg (Nat.not_le.2 deep)]

/-- An untyped document with a container in an array, an empty name, and a double that denotes no
number. -/
def Json.layeredDocument : Document :=
  ⟨{ sourceId := "a" },
    [⟨"", .array [.container ⟨{ messageType := "m" }, [⟨"x", .bytes [0x5D]⟩]⟩]⟩,
      ⟨"\"", .double 0x7FF8000000000000⟩]⟩

theorem Codec.decode_encode_json_layeredDocument :
    (∀ depth v, Json.layeredDocument.HoldsAt depth v → v.isFinite = false) ∧
      ∃ s, Codec.encode .json Json.layeredDocument = .ok s ∧ Format.detect? s = some .json ∧
        Codec.decode .json s = .ok (Json.canonical Json.layeredDocument) := by
  have real : ∀ depth v, Json.layeredDocument.HoldsAt depth v → v.isFinite = false := by
    rintro depth v ⟨n, mem, holds⟩
    simp only [Json.layeredDocument, List.mem_cons, List.not_mem_nil, or_false] at mem
    rcases mem with rfl | rfl
    · cases holds with
      | here => rfl
      | array mem holds =>
        obtain rfl := List.mem_singleton.1 mem
        cases holds with
        | here => rfl
        | container mem holds =>
          obtain rfl := List.mem_singleton.1 mem
          cases holds
          rfl
    · cases holds
      decide
  obtain ⟨s, t, written, detected, parsed, read, -⟩ := decode_encode_json real
  have brackets : t.brackets ≤ Json.bracketLimit := by
    obtain rfl := Except.ok.inj written
    obtain rfl := Option.some.inj ((Json.parse?_encode _).symm.trans parsed)
    decide +kernel
  exact ⟨real, s, written, detected, read brackets⟩

end Parcel
