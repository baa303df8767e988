/-!
# Headers

A container carries six header fields: who sent it, whom it is for, what type of message it is and
in which version. The two ends have a main and a sub identifier each. Fields are numbered on the
wire. A container of the default message type is untyped, and its four routing identifiers stay
off the wire.

## Main definitions

* `Parcel.Field` — the six fields, with their numbers and names
* `Parcel.Header` — a value for every field
* `Header.wireFields` — the fields that go on the wire, in the order of their numbers
-/

namespace Parcel

/-- The fields of a header. -/
inductive Field where
  /-- Whom the container is for. -/
  | targetId
  /-- Which part of the target it is for. -/
  | targetSubId
  /-- Who sent it. -/
  | sourceId
  /-- Which part of the source sent it. -/
  | sourceSubId
  /-- The type of message. -/
  | messageType
  /-- The version of the message type. -/
  | version
  deriving DecidableEq, Inhabited

namespace Field

/-- All fields in the order of their numbers. -/
def all : List Field := [targetId, targetSubId, sourceId, sourceSubId, messageType, version]

/-- All fields in the order in which a header lists them. -/
def listed : List Field := [sourceId, sourceSubId, targetId, targetSubId, messageType, version]

/-- The number of a field on the wire. -/
def number : Field → Nat
  | targetId => 1
  | targetSubId => 2
  | sourceId => 3
  | sourceSubId => 4
  | messageType => 5
  | version => 6

/-- The field of a number. -/
def ofNumber? (n : Nat) : Option Field := all.find? (·.number == n)

/-- The name of a field in the named formats. -/
def name : Field → String
  | targetId => "target_id"
  | targetSubId => "target_sub_id"
  | sourceId => "source_id"
  | sourceSubId => "source_sub_id"
  | messageType => "message_type"
  | version => "version"

/-- The field of a name. -/
def ofName? (name : String) : Option Field := all.find? (·.name == name)

/-- Whether a field names one of the two ends. -/
def isRouting : Field → Bool
  | messageType | version => false
  | _ => true

end Field

/-- The message type of an untyped container. -/
def Header.defaultMessageType : String := "data_container"

/-- The version of a header that names none. -/
def Header.defaultVersion : String := "1.0"

/-- A value for every header field. -/
structure Header where
  /-- Who sent the container. -/
  sourceId : String := ""
  /-- Which part of the source sent it. -/
  sourceSubId : String := ""
  /-- Whom it is for. -/
  targetId : String := ""
  /-- Which part of the target it is for. -/
  targetSubId : String := ""
  /-- The type of message. -/
  messageType : String := Header.defaultMessageType
  /-- The version of the message type. -/
  version : String := Header.defaultVersion
  deriving DecidableEq, Inhabited

namespace Header

/-- The header of a new container. -/
def initial : Header := {}

/-- Whether the routing identifiers stay off the wire. -/
def isUntyped (h : Header) : Bool := h.messageType == defaultMessageType

/-- The header with source and target exchanged. -/
def swap (h : Header) : Header :=
  { h with sourceId := h.targetId, sourceSubId := h.targetSubId,
           targetId := h.sourceId, targetSubId := h.sourceSubId }

/-- The value of a field. -/
def get (h : Header) : Field → String
  | .targetId => h.targetId
  | .targetSubId => h.targetSubId
  | .sourceId => h.sourceId
  | .sourceSubId => h.sourceSubId
  | .messageType => h.messageType
  | .version => h.version

/-- The header with `value` for one field. -/
def set (h : Header) (field : Field) (value : String) : Header :=
  match field with
  | .targetId => { h with targetId := value }
  | .targetSubId => { h with targetSubId := value }
  | .sourceId => { h with sourceId := value }
  | .sourceSubId => { h with sourceSubId := value }
  | .messageType => { h with messageType := value }
  | .version => { h with version := value }

/-- The header with the given `fields` set one after the other. -/
def setAll (h : Header) (fields : List (Field × String)) : Header :=
  fields.foldl (fun h (field, value) => h.set field value) h

/-- The fields that go on the wire, in the order of their numbers. -/
def wireFields (h : Header) : List (Field × String) :=
  (Field.all.filter fun f => !(h.isUntyped && f.isRouting)).map fun f => (f, h.get f)

/-- The header without what stays off the wire. -/
def onWire (h : Header) : Header :=
  if h.isUntyped then { messageType := h.messageType, version := h.version } else h

/-- The memory of the six values in bytes. -/
def heapSize (h : Header) : Nat := Field.all.foldr (fun f n => (h.get f).utf8ByteSize + n) 0

end Header

end Parcel
