import Parcel.Proofs.Container.Admission
import Parcel.Proofs.Delimited.Domain
import Parcel.Proofs.Delimited.Received
import Parcel.Proofs.Pool.Independence

/-!
# What the size limit of a configuration has room for

A container without values is written as the two header values of its settings between delimiters.
Settings that are valid can be written, and what is written reads back as the same container. But
the least size limit that is valid is smaller than every text of that kind, so a container takes its
own text over exactly when the limit of its settings happens to be large enough.

## Main definitions

* `Config.header` — the header of a container that was made with the settings
* `Config.emptyLength` — the length of the text of such a container

## Main results

* `Config.validate_eq_ok_iff` — what is asked of settings
* `Config.encode_empty` — the text of a container without values
* `Container.deserialize_serialize_empty` — when a container takes that text over
-/

namespace Parcel

/-! ## Lengths -/

namespace Delimited

theorem length_fieldBytes (p : Field × String) :
    (fieldBytes p).length = (Utf8.encode p.2).length + 4 := by
  obtain ⟨field, value⟩ := p
  have digit : (numeral field.number).length = 1 := by cases field <;> decide
  have closing : terminator.length = 2 := rfl
  simp only [fieldBytes, List.length_append, List.length_cons, digit, closing]
  omega

/-- The header block is as long as the values of `wireFields` and the delimiters around them. -/
theorem length_headerBytes (h : Header) :
    (headerBytes h).length = (h.wireFields.map fun p => (Utf8.encode p.2).length + 5).sum + 13 := by
  have pairs : (h.wireFields.flatMap fun p => Bytes.ofChar '[' :: fieldBytes p).length =
      (h.wireFields.map fun p => (Utf8.encode p.2).length + 5).sum := by
    rw [List.length_flatMap]
    simp only [List.length_cons, length_fieldBytes]
  have opening : Format.headerMark.length + openBraces.length = 10 := rfl
  have closing : closeBraces.length = 3 := rfl
  simp only [headerBytes, List.length_append, pairs, closing]
  omega

end Delimited

/-! ## Settings -/

namespace Config

open Delimited (hasTerminator headerBytes dataBytes)

variable {config : Config} {s : Bytes}

theorem refuse_eq_ok_iff {broken : Prop} [Decidable broken] {rule : Invalid}
    {rest : Except Invalid Unit} :
    (if broken then .error rule else rest) = .ok () ↔ ¬broken ∧ rest = .ok () := by
  by_cases refused : broken
  · simp [refused]
  · simp [refused]

/-- A header value that settings may have. -/
structure IsUsable (value : String) : Prop where
  filled : Unicode.isBlankText value = false
  encodable : hasTerminator (Utf8.encode value) = false

/-- Settings are valid when both header values are usable and the size limit is not below
`leastMaxBytes`. -/
theorem validate_eq_ok_iff : config.validate = .ok () ↔
    IsUsable config.messageType ∧ IsUsable config.version ∧ leastMaxBytes ≤ config.maxBytes := by
  simp only [validate, refuse_eq_ok_iff, isEncodable, Bool.not_not, Bool.not_eq_true, Nat.not_lt,
    and_true]
  constructor
  · rintro ⟨filled, filled', encodable, encodable', large⟩
    exact ⟨⟨filled, encodable⟩, ⟨filled', encodable'⟩, large⟩
  · rintro ⟨messageType, version, large⟩
    exact ⟨messageType.filled, version.filled, messageType.encodable, version.encodable, large⟩

theorem IsUsable.length_pos {value : String} (usable : IsUsable value) :
    0 < (Utf8.encode value).length := by
  refine List.length_pos_iff.2 fun empty => ?_
  have filled := usable.filled
  rw [Utf8.encode_injective (t := "") empty] at filled
  cases filled

/-- The header of a container that was made with the settings. -/
def header (config : Config) : Header :=
  { messageType := config.messageType, version := config.version }

/-- The length of the text of a container without values: the delimiters of the two blocks and of
the header fields on the wire, and the values of the settings between them. -/
def emptyLength (config : Config) : Nat :=
  (if config.messageType = Header.defaultMessageType then 34 else 54) +
    (Utf8.encode config.messageType).length + (Utf8.encode config.version).length

theorem onWire_header (config : Config) : config.header.onWire = config.header := by
  rw [header, Header.onWire]
  split <;> rfl

theorem length_empty (config : Config) :
    (headerBytes config.header ++ dataBytes []).length = config.emptyLength := by
  have data : (dataBytes []).length = 11 := rfl
  rw [List.length_append, Delimited.length_headerBytes, data, emptyLength]
  -- the four identifiers are on the wire, as empty fields, only when the message has a type
  by_cases untyped : config.messageType = Header.defaultMessageType
  · have fields : config.header.wireFields =
        [(.messageType, config.messageType), (.version, config.version)] := by
      simp [Header.wireFields, Header.isUntyped, header, untyped, Field.all, Field.isRouting,
        Header.get]
    rw [fields, if_pos untyped]
    simp only [List.map_cons, List.map_nil, List.sum_cons, List.sum_nil]
    omega
  · have fields : config.header.wireFields = [(.targetId, ""), (.targetSubId, ""),
        (.sourceId, ""), (.sourceSubId, ""), (.messageType, config.messageType),
        (.version, config.version)] := by
      simp [Header.wireFields, Header.isUntyped, header, untyped, Field.all, Header.get]
    have blank : (Utf8.encode "").length = 0 := rfl
    rw [fields, if_neg untyped]
    simp only [List.map_cons, List.map_nil, List.sum_cons, List.sum_nil, blank]
    omega

/-- The text of a container without values is much longer than `leastMaxBytes`. -/
theorem le_emptyLength (valid : config.validate = .ok ()) : 49 ≤ config.emptyLength := by
  obtain ⟨messageType, version, -⟩ := validate_eq_ok_iff.1 valid
  have filled := messageType.length_pos
  have filled' := version.length_pos
  rw [emptyLength]
  split
  · next untyped =>
    -- what the identifiers would take is less than what the usual message type takes
    have named : (Utf8.encode Header.defaultMessageType).length = 14 := by decide
    rw [untyped, named]
    omega
  · omega

/-- The text of a container without values. -/
theorem encode_empty (valid : config.validate = .ok ()) :
    Codec.encode .text ⟨config.header, []⟩ = .ok (headerBytes config.header ++ dataBytes []) := by
  obtain ⟨messageType, version, -⟩ := validate_eq_ok_iff.1 valid
  refine Draft.finish_eq_ok_iff.2 (Delimited.encode_eq_of_iff.2 ⟨?_, nofun, rfl⟩)
  let isEncodable (value : String) : Prop := hasTerminator (Utf8.encode value) = false
  refine (Header.forall_wireFields_iff (P := isEncodable)).2 fun field _ => ?_
  -- the identifiers are empty, so only the two values of the settings are in question
  cases field with
  | messageType => exact messageType.encodable
  | version => exact version.encodable
  | _ => rfl

end Config

/-! ## Containers -/

namespace Container

variable {config : Config} {pool : Pool} {s : Bytes} {d : Document}

theorem serialize_empty [Memory] (valid : config.validate = .ok ()) (shared : pool.Reachable)
    (policy : Policy) :
    (((new policy).withConfig config).serialize .text pool).1 =
      .ok (Delimited.headerBytes config.header ++ Delimited.dataBytes []) := by
  have held : ((new policy).withConfig config).contents = .ok [] :=
    congrArg Except.ok (Store.toList_ofList policy [])
  rw [serialize_eq shared.clean, snapshot_eq, held]
  change (Memory.reserve 64 >>= fun _ => Codec.encode .text ⟨config.header, []⟩) = _
  rw [Memory.reserve_of_le (by decide)]
  exact Config.encode_empty valid

/-- An input beyond `maxBytes` is refused, whatever is in it, and the error says both sizes. -/
theorem deserialize_of_large {c : Container} {f : Format} (found : Format.detect? s = some f)
    (large : c.config.maxBytes < s.length) :
    c.deserialize s = (.error (.deserializationFailed ("input of " ++ Decimal.text s.length ++
      " bytes exceeds the " ++ Decimal.text c.config.maxBytes ++ " byte limit")), c) := by
  rw [deserialize, found]
  dsimp only
  rw [deserializeAs, checkSize, if_neg (Nat.not_le.2 large)]
  rfl

/-- A container takes over a text `s` that it can decode, if `maxBytes` has room for that text, and
then `Holds` its document. -/
theorem holds_of_written {c : Container} (written : Codec.encode .text d = .ok s)
    (decoded : Codec.decode .text s = .ok d) (small : s.length ≤ c.config.maxBytes) :
    (c.deserialize s).1 = .ok () ∧ (c.deserialize s).2.Holds d := by
  have found := (Delimited.decode_encode_document written).1
  have taken : (c.deserialize s).1 = .ok () :=
    Codec.deserialize_eq_ok_iff.2 ⟨small, .text, d, found, decoded⟩
  refine ⟨taken, ?_⟩
  obtain ⟨e, refused⟩ | ⟨f, read, outcome, -, holds⟩ := deserialize_cases s c
  · rw [refused] at taken
    cases taken
  · obtain ⟨same, again⟩ := Codec.decodeAny_eq_ok_iff.1 outcome
    rw [found] at same
    cases same
    rw [decoded] at again
    cases again
    exact holds

/-- The text of an empty container that was made with valid settings has `emptyLength` bytes: the
header values of the settings and the delimiters of the format, which are 49 bytes at least. Every
container with these settings takes the text over and is empty then, with the header of the
settings, if `maxBytes` has room for it, and refuses it otherwise. -/
theorem deserialize_serialize_empty [Memory] {config : Config} {pool : Pool}
    (valid : config.validate = .ok ()) (shared : pool.Reachable) (policy : Policy) :
    let empty := (new policy).withConfig config
    ∃ s, (empty.serialize .text pool).1 = .ok s ∧
      s.length = config.emptyLength ∧ 49 ≤ config.emptyLength ∧
      ∀ c : Container, c.config = config →
        (config.emptyLength ≤ config.maxBytes →
          (c.deserialize s).1 = .ok () ∧ (c.deserialize s).2.Holds ⟨empty.header, []⟩) ∧
        (config.maxBytes < config.emptyLength →
          c.deserialize s = (.error (.deserializationFailed ("input of " ++
            Decimal.text config.emptyLength ++ " bytes exceeds the " ++
            Decimal.text config.maxBytes ++ " byte limit")), c)) := by
  intro empty
  have written := Config.encode_empty valid
  -- nothing of the header stays off the wire that is not empty anyway
  have same : Document.received ⟨config.header, []⟩ = ⟨config.header, []⟩ :=
    congrArg (Document.mk · []) (Config.onWire_header config)
  have decoded := Delimited.decode_eq_ok_received (Draft.finish_eq_ok_iff.1 written) nofun
  rw [same] at decoded
  refine ⟨_, serialize_empty valid shared policy, Config.length_empty config,
    Config.le_emptyLength valid, ?_⟩
  rintro c rfl
  rw [← Config.length_empty]
  refine ⟨fun small => holds_of_written written decoded small, fun large => ?_⟩
  exact deserialize_of_large (Delimited.decode_encode_document written).1 large

/-- Settings whose size limit has room for the text of an empty container and for no more. -/
def tight : Config := { messageType := "größe]", version := " ;\n", maxBytes := 65 }

open scoped Memory.Plenty

theorem deserialize_serialize_empty_tight :
    let empty := (new .indexed).withConfig tight
    let pool : Pool := .block (.new 4)
    tight.validate = .ok () ∧ pool.Reachable ∧ tight.emptyLength = tight.maxBytes ∧
      ∃ s, (empty.serialize .text pool).1 = .ok s ∧ (empty.deserialize s).1 = .ok () ∧
        (empty.deserialize s).2.Holds ⟨empty.header, []⟩ := by
  intro empty pool
  have valid : tight.validate = .ok () := by decide +kernel
  have shared : pool.Reachable := .block 4
  have exact : tight.emptyLength = tight.maxBytes := by decide +kernel
  obtain ⟨s, written, -, -, takes⟩ := deserialize_serialize_empty valid shared .indexed
  obtain ⟨taken, holds⟩ := (takes empty rfl).1 exact.le
  exact ⟨valid, shared, exact, s, written, taken, holds⟩

/-- The least size limit that is valid, for the usual header values. -/
def least : Config := { maxBytes := Config.leastMaxBytes }

/-- A container with these settings refuses its own text. -/
theorem deserialize_serialize_least :
    let empty := (new .linear).withConfig least
    least.validate = .ok () ∧
      ∃ s, (empty.serialize .text (.block (.new 4))).1 = .ok s ∧
        empty.deserialize s = (.error (.deserializationFailed
          "input of 51 bytes exceeds the 16 byte limit"), empty) := by
  intro empty
  have valid : least.validate = .ok () := by decide +kernel
  have length : (Delimited.headerBytes least.header ++ Delimited.dataBytes []).length = 51 := by
    rw [Config.length_empty]
    decide +kernel
  have large : empty.config.maxBytes <
      (Delimited.headerBytes least.header ++ Delimited.dataBytes []).length := by
    rw [length]
    decide
  have message : "input of " ++ Decimal.text 51 ++ " bytes exceeds the " ++
      Decimal.text empty.config.maxBytes ++ " byte limit" =
      "input of 51 bytes exceeds the 16 byte limit" := by
    decide +kernel
  refine ⟨valid, _, serialize_empty valid (.block 4) .linear, ?_⟩
  rw [deserialize_of_large (Delimited.detect?_document _) large, length, message]

end Container

end Parcel
