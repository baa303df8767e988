import Parcel.MessagePack.Marker
import Parcel.Unicode.Utf8
import Parcel.Value

/-!
# Writing MessagePack

A document is a map of two entries: the header fields that go on the wire, and the values by name.
Integers are written as short as possible, whatever their kind, and a nested container as the bytes
of its own encoding.

## Main definitions

* `MessagePack.encode` — a document as MessagePack
-/

namespace Parcel.MessagePack

/-- A text. -/
def encodeText (s : String) : Bytes :=
  let bytes := Utf8.encode s
  (Head.text bytes.length).write ++ bytes

/-- Bytes. -/
def encodeBinary (s : Bytes) : Bytes := (Head.binary s.length).write ++ s

/-- Header fields by name. -/
def encodeFields : List (Field × String) → Bytes
  | [] => []
  | (field, value) :: rest => encodeText field.name ++ (encodeText value ++ encodeFields rest)

mutual

/-- A value. -/
def encodeValue : Value → Bytes
  | .null => Head.nil.write
  | .bool b => (Head.bool b).write
  | .integer n => (Head.integer n.number true).write
  | .float bits => (Head.float bits).write
  | .double bits => (Head.double bits).write
  | .string s => encodeText s
  | .bytes s => encodeBinary s
  | .container d => encodeBinary (encode d)
  | .array items => (Head.array items.length).write ++ encodeItems items

/-- The items of an array. -/
def encodeItems : List Value → Bytes
  | [] => []
  | v :: rest => encodeValue v ++ encodeItems rest

/-- Values by name. -/
def encodeValues : List Named → Bytes
  | [] => []
  | ⟨name, v⟩ :: rest => encodeText name ++ (encodeValue v ++ encodeValues rest)

/-- A document. -/
def encode : Document → Bytes
  | ⟨header, values⟩ =>
    let fields := header.wireFields
    (Head.map 2).write ++ (encodeText "header" ++ ((Head.map fields.length).write ++
      (encodeFields fields ++ (encodeText "values" ++ ((Head.map values.length).write ++
        encodeValues values)))))

end

end Parcel.MessagePack
