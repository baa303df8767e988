import Parcel.Proofs.Delimited.Reencoding

/-!
# What the text format can carry

Header values, strings and bytes are written as they are, and names are cut at delimiters, so a
document cannot be written when one of them would end its pair early. The writer asks this of every
document and of whatever is nested in it, and it asks nothing else: values of all other kinds are
written as literals and digits, and the items of an array under their positions. A header value that
stays off the wire may be anything.

## Main definitions

* `Delimited.Refusing` — a draft is stopped by refusals only
* `Delimited.Carriable` — what is asked of one value
* `Document.Representable` — what is asked of a document

## Main results

* `Delimited.refusing_encode` — writing fails with a refusal, or not at all
* `Delimited.exists_encodeValue_iff` — the values that can be written
* `Delimited.encode_eq_ok_iff_representable` — the documents that can be written
-/

namespace Parcel

namespace Delimited

/-! ## The end of a pair -/

theorem isSome_offsetOfPairFrom_iff {first second : UInt8} {i : Nat} {s : Bytes} :
    (Bytes.offsetOfPairFrom first second i s).isSome ↔ [first, second] <:+: s := by
  induction s generalizing i with
  | nil => simp [Bytes.offsetOfPairFrom]
  | cons b s ih =>
    have here : (b == first && s.head? == some second) = true ↔ [first, second] <+: b :: s := by
      rw [List.cons_prefix_cons, Bool.and_eq_true, beq_iff_eq, beq_iff_eq]
      refine and_congr eq_comm ?_
      cases s with
      | nil => simp
      | cons c s =>
        rw [List.head?_cons, List.cons_prefix_cons, Option.some_inj]
        exact ⟨fun eq => ⟨eq.symm, List.nil_prefix⟩, fun eq => eq.1.symm⟩
    -- the search stops at the first place where the two bytes stand side by side
    rw [Bytes.offsetOfPairFrom, List.infix_cons_iff, ← here, ← @ih (i + 1)]
    split
    · simp_all
    · simp_all

/-- The end of a pair, which `hasTerminator` looks for byte by byte. -/
theorem hasTerminator_iff {s : Bytes} : hasTerminator s ↔ terminator <:+: s := by
  rw [terminator_eq]
  exact isSome_offsetOfPairFrom_iff

theorem hasTerminator_eq_false_iff {s : Bytes} :
    hasTerminator s = false ↔ ¬terminator <:+: s := by
  rw [← hasTerminator_iff, Bool.not_eq_true]

/-! ## How writing fails -/

/-- When a draft stops, it stops with a refusal. -/
def Refusing (a : Draft) : Prop := ∀ e, a.stopped = some e → ∃ r : Refusal, e = r.error

section Refusing

variable {a b : Draft} {s : Bytes} {name : String}

theorem refusing_of (s : Bytes) : Refusing (.of s) := nofun

theorem refusing_stop (r : Refusal) : Refusing (.stop r.error) := by
  rintro _ ⟨⟩
  exact ⟨r, rfl⟩

theorem Refusing.append (first : Refusing a) (second : Refusing b) : Refusing (a ++ b) := by
  change Refusing (a.append b)
  obtain ⟨x, _ | e⟩ := a
  · exact second
  · exact first

theorem Refusing.wrap (inside : Refusing a) (f : Bytes → Bytes) : Refusing (a.wrap f) := by
  obtain ⟨x, _ | e⟩ := a
  · exact refusing_of _
  · exact inside

theorem refusing_require (condition : Bool) (r : Refusal) :
    Refusing (Draft.require condition r.error) := by
  cases condition
  · exact refusing_stop r
  · exact refusing_of _

theorem refusing_verbatim (name : String) (s : Bytes) : Refusing (verbatim name s) := by
  rw [verbatim]
  split
  · exact refusing_stop _
  · exact refusing_of _

theorem refusing_encodeFields (fields : List (Field × String)) :
    Refusing (encodeFields fields) := by
  induction fields with
  | nil => exact refusing_of _
  | cons p fields ih => exact (refusing_require _ _).append ((refusing_of _).append ih)

theorem refusing_encodeValues {values : List Named}
    (each : ∀ n ∈ values, Refusing (encodeValue n.name n.value)) :
    Refusing (encodeValues values) := by
  induction values with
  | nil => exact refusing_of _
  | cons n values ih =>
    obtain ⟨name, v⟩ := n
    have value : Refusing (encodeValue name v) := each _ List.mem_cons_self
    have pair : Refusing (encodePair name v.kind (encodeValue name v)) :=
      (refusing_require _ _).append ((refusing_of _).append (value.append (refusing_of _)))
    exact pair.append (ih fun n mem => each n (List.mem_cons_of_mem _ mem))

theorem refusing_dataBlock (pairs : Refusing a) : Refusing (dataBlock a) :=
  (refusing_of _).append (pairs.append (refusing_of _))

theorem refusing_document {d : Document}
    (each : ∀ n ∈ d.values, Refusing (encodeValue n.name n.value)) : Refusing (encode d) := by
  obtain ⟨header, values⟩ := d
  have fields : Refusing (encodeHeader header) :=
    (refusing_of _).append ((refusing_encodeFields _).append (refusing_of _))
  exact fields.append (refusing_dataBlock (refusing_encodeValues each))

/-- A value is written or refused. -/
theorem refusing_encodeValue (v : Value) : ∀ name, Refusing (encodeValue name v) := by
  induction v using Value.induct with
  | ofContainer d ih => exact fun name => (refusing_document fun n mem => ih n mem n.name).wrap _
  | ofArray items ih =>
    intro name
    rw [encodeValue, encodeItems_eq]
    refine (refusing_dataBlock (refusing_encodeValues fun n mem => ?_)).wrap _
    exact ih n.value (mem_items_iff.2 ⟨n, mem, rfl⟩) n.name
  | ofFlat v flat =>
    intro name
    cases v with
    | string text => exact refusing_verbatim name _
    | bytes x => exact refusing_verbatim name x
    | container d => exact absurd rfl flat.1
    | array items => exact absurd rfl flat.2
    | _ => exact refusing_of _

/-- A document is written or refused. -/
theorem refusing_encode (d : Document) : Refusing (encode d) :=
  refusing_document fun n _ => refusing_encodeValue n.value n.name

theorem Refusing.finish (refusing : Refusing a) :
    (∃ s, a.finish = .ok s) ∨ ∃ r : Refusal, a.finish = .error r.error := by
  obtain ⟨s, _ | e⟩ := a
  · exact .inl ⟨s, rfl⟩
  · obtain ⟨r, rfl⟩ := refusing e rfl
    exact .inr ⟨r, rfl⟩

end Refusing

/-! ## What can be written -/

/-- What the text format asks of one value, whatever is inside it. -/
def Carriable : Value → Prop
  | .string text => hasTerminator (Utf8.encode text) = false
  | .bytes x => hasTerminator x = false
  | .container d =>
    (∀ p ∈ d.header.wireFields, hasTerminator (Utf8.encode p.2) = false) ∧
      ∀ n ∈ d.values, isName (Utf8.encode n.name)
  | _ => True

theorem writable_iff {n : Named} :
    Writable n ↔ isName (Utf8.encode n.name) ∧ ∃ t, encodeValue n.name n.value = .of t := by
  constructor
  · rintro ⟨name, value⟩
    exact ⟨name, _, value⟩
  · rintro ⟨name, t, written⟩
    refine ⟨name, ?_⟩
    rw [payload, written]
    rfl

/-- A value can be written exactly when it is `Carriable`, and every value inside it. -/
theorem exists_encodeValue_iff (v : Value) :
    ∀ name, (∃ t, encodeValue name v = .of t) ↔ v.Every Carriable := by
  induction v using Value.induct with
  | ofContainer d ih =>
    intro name
    rw [Value.every_container_iff]
    constructor
    · rintro ⟨t, written⟩
      obtain ⟨x, inner, -⟩ := Draft.wrap_eq_of_iff.1 written
      obtain ⟨absent, writable, -⟩ := encode_eq_of_iff.1 inner
      refine ⟨⟨absent, fun n mem => (writable n mem).name⟩, fun n mem => ?_⟩
      exact (ih n mem n.name).1 ⟨_, (writable n mem).value⟩
    · rintro ⟨⟨absent, named⟩, every⟩
      refine ⟨_, Draft.wrap_eq_of_iff.2 ⟨_, encode_eq_of_iff.2 ⟨absent, fun n mem => ?_, rfl⟩, rfl⟩⟩
      exact writable_iff.2 ⟨named n mem, (ih n mem n.name).2 (every n mem)⟩
  | ofArray items ih =>
    intro name
    rw [Value.every_array_iff]
    constructor
    · -- the names of items are positions, so only the items themselves are in question
      rintro ⟨t, written⟩
      obtain ⟨writable, -⟩ := encodeValue_array_iff.1 written
      refine ⟨trivial, fun v mem => ?_⟩
      obtain ⟨n, member, rfl⟩ := mem_items_iff.1 mem
      exact (ih n.value mem n.name).1 ⟨_, (writable n member).value⟩
    · rintro ⟨-, every⟩
      exact exists_encodeValue_array (fun v mem name => (ih v mem name).2 (every v mem)) name
  | ofFlat v flat =>
    intro name
    rw [Value.every_iff_of_flat flat]
    cases v with
    | string text => simp [encodeValue, verbatim_eq_of_iff, Carriable]
    | bytes x => simp [encodeValue, verbatim_eq_of_iff, Carriable]
    | container d => exact absurd rfl flat.1
    | array items => exact absurd rfl flat.2
    | _ => exact ⟨fun _ => trivial, fun _ => ⟨_, rfl⟩⟩

end Delimited

/-! ## Documents -/

namespace Document

/-- What the text format asks of a document, and of those that are nested in it. -/
structure Representable (d : Document) : Prop where
  /-- No header value on the wire contains the end of a pair. The routing identifiers are on the
  wire only when the message has a type. -/
  header : ∀ e, d.HasPart e → ∀ field : Field,
    (field.isRouting = true → e.header.messageType ≠ "data_container") →
      ¬Delimited.terminator <:+: Utf8.encode (e.header.get field)
  /-- No name is empty or has a delimiter. -/
  name : ∀ e, d.HasPart e → ∀ n ∈ e.values, n.name ≠ "" ∧
    Bytes.ofChar ',' ∉ Utf8.encode n.name ∧ Bytes.ofChar '[' ∉ Utf8.encode n.name ∧
      Bytes.ofChar ']' ∉ Utf8.encode n.name
  /-- No string contains the end of a pair. -/
  string : ∀ depth text, d.HoldsAt depth (.string text) →
    ¬Delimited.terminator <:+: Utf8.encode text
  /-- Neither do any bytes. -/
  bytes : ∀ depth x, d.HoldsAt depth (.bytes x) → ¬Delimited.terminator <:+: x

end Document

/-- What is asked of every field on the wire. The routing identifiers are not among `wireFields`
when the message has no type. -/
theorem Header.forall_wireFields_iff {h : Header} {P : String → Prop} :
    (∀ p ∈ h.wireFields, P p.2) ↔
      ∀ field : Field, (field.isRouting = true → h.messageType ≠ "data_container") →
        P (h.get field) := by
  have listed (field : Field) : field ∈ Field.all := by cases field <;> decide
  have kept (field : Field) : (!(h.isUntyped && field.isRouting)) = true ↔
      (field.isRouting = true → h.messageType ≠ "data_container") := by
    rw [Bool.not_eq_true', Bool.and_eq_false_imp, isUntyped, defaultMessageType]
    cases field.isRouting <;> simp
  constructor
  · intro all field present
    exact all (field, h.get field) (List.mem_map.2
      ⟨field, List.mem_filter.2 ⟨listed field, (kept field).2 present⟩, rfl⟩)
  · rintro all _ mem
    obtain ⟨field, present, rfl⟩ := List.mem_map.1 mem
    exact all field ((kept field).1 (List.mem_filter.1 present).2)

namespace Delimited

variable {d : Document}

theorem isName_encode_iff {name : String} : isName (Utf8.encode name) ↔ name ≠ "" ∧
    Bytes.ofChar ',' ∉ Utf8.encode name ∧ Bytes.ofChar '[' ∉ Utf8.encode name ∧
      Bytes.ofChar ']' ∉ Utf8.encode name := by
  have blank : Utf8.encode name = [] ↔ name = "" :=
    ⟨fun empty => Utf8.encode_injective empty, by rintro rfl; rfl⟩
  rw [isName_iff, Ne, blank]

/-- What is asked of a container is asked of its header and of the names in it. -/
theorem carriable_container_iff : Carriable (.container d) ↔
    (∀ field : Field, (field.isRouting = true → d.header.messageType ≠ "data_container") →
        ¬terminator <:+: Utf8.encode (d.header.get field)) ∧
      ∀ n ∈ d.values, n.name ≠ "" ∧ Bytes.ofChar ',' ∉ Utf8.encode n.name ∧
        Bytes.ofChar '[' ∉ Utf8.encode n.name ∧ Bytes.ofChar ']' ∉ Utf8.encode n.name := by
  simp only [Carriable, isName_encode_iff, hasTerminator_eq_false_iff]
  rw [Header.forall_wireFields_iff (P := fun value => ¬terminator <:+: Utf8.encode value)]

/-- A document is `Representable` when each of the values in it can be carried, and so can the
document as a value. -/
theorem representable_iff_every : d.Representable ↔ (Value.container d).Every Carriable := by
  constructor
  · rintro ⟨header, name, string, bytes⟩ depth w inside
    cases w with
    | container e =>
      have part : d.HasPart e := ⟨depth, inside⟩
      exact carriable_container_iff.2 ⟨header e part, name e part⟩
    | string text =>
      obtain _ | ⟨mem, inside⟩ := inside
      exact hasTerminator_eq_false_iff.2 (string _ text ⟨_, mem, inside⟩)
    | bytes x =>
      obtain _ | ⟨mem, inside⟩ := inside
      exact hasTerminator_eq_false_iff.2 (bytes _ x ⟨_, mem, inside⟩)
    | _ => trivial
  · intro every
    obtain ⟨-, values⟩ := Document.every_container_iff.1 every
    refine ⟨?_, ?_, ?_, ?_⟩
    · rintro e ⟨depth, inside⟩
      exact (carriable_container_iff.1 (every depth _ inside)).1
    · rintro e ⟨depth, inside⟩
      exact (carriable_container_iff.1 (every depth _ inside)).2
    · intro depth text inside
      exact hasTerminator_eq_false_iff.1 (values depth _ inside)
    · intro depth x inside
      exact hasTerminator_eq_false_iff.1 (values depth _ inside)

theorem exists_encode_iff : (∃ s, Codec.encode .text d = .ok s) ↔ d.Representable := by
  -- a document can be written exactly when it can be the value of a pair
  rw [representable_iff_every, ← exists_encodeValue_iff _ ""]
  constructor
  · rintro ⟨s, written⟩
    exact ⟨_, Draft.wrap_eq_of_iff.2 ⟨s, Draft.finish_eq_ok_iff.1 written, rfl⟩⟩
  · rintro ⟨t, written⟩
    obtain ⟨s, inner, -⟩ := Draft.wrap_eq_of_iff.1 written
    exact ⟨s, Draft.finish_eq_ok_iff.2 inner⟩

/-- The documents that can be written are those that are `Representable`. All others are refused
with an `encodingError`, and nothing else can go wrong. -/
theorem encode_eq_ok_iff_representable (d : Document) :
    ((∃ s, Codec.encode .text d = .ok s) ↔ d.Representable) ∧
      ((∃ r : Refusal, Codec.encode .text d = .error (.encodingError r.message)) ↔
        ¬d.Representable) ∧
      ∀ e, Codec.encode .text d = .error e → ∃ message, e = .encodingError message := by
  have outcome : (∃ s, Codec.encode .text d = .ok s) ∨
      ∃ r : Refusal, Codec.encode .text d = .error (.encodingError r.message) :=
    (refusing_encode d).finish
  refine ⟨exists_encode_iff, ⟨?_, fun not => ?_⟩, fun e failed => ?_⟩
  · rintro ⟨r, refused⟩ representable
    obtain ⟨s, written⟩ := exists_encode_iff.2 representable
    rw [refused] at written
    cases written
  · exact outcome.resolve_left fun written => not (exists_encode_iff.1 written)
  · rcases outcome with ⟨s, written⟩ | ⟨r, refused⟩
    · rw [failed] at written
      cases written
    · rw [failed] at refused
      exact ⟨r.message, Except.error.inj refused⟩

/-- A payload may end with the bracket of its pair, and an identifier that stays off the wire may
contain the end of one. -/
example : (Codec.encode .text ⟨{ sourceId := "];" }, [⟨"k", .string "x]"⟩]⟩).isOk = true := by
  decide +kernel

end Delimited

end Parcel
