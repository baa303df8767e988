import Parcel.Json.Numeral
import Parcel.Json.Text

/-!
# Writing JSON

A document is an object of two members: the header fields that go on the wire, and the values by
name. Bytes become hexadecimal strings, nested containers nested objects. A single is written with
its own shortest digits. What is not a finite number becomes null.

## Main definitions

* `Json.encode` — a document as JSON
* `Json.encodeHeader` — all fields of a header as JSON
-/

namespace Parcel.Json

/-- Items between commas. -/
def joined : List Bytes → Bytes
  | [] => []
  | [item] => item
  | item :: rest => item ++ 0x2C :: joined rest

/-- Members between braces. -/
def braced (members : List Bytes) : Bytes := 0x7B :: (joined members ++ [0x7D])

/-- A key and a value. -/
def member (key : String) (value : Bytes) : Bytes := quote key ++ 0x3A :: value

/-- The null literal. -/
def nullText : Bytes := Utf8.encode "null"

/-- A double, or null when it is not finite. -/
def encodeDouble (bits : Nat) : Bytes :=
  match double? bits with
  | some cs => Utf8.encodeChars cs
  | none => nullText

/-- The double whose shortest digits are those of a single. -/
def widenByDigits (bits : Nat) : Nat :=
  (Number.read? Binary.double (Number.display Binary.single bits)).getD 0

mutual

/-- A value as JSON. -/
def encodeValue : Value → Bytes
  | .null => nullText
  | .bool b => Utf8.encode (if b then "true" else "false")
  | .integer n => Utf8.encodeChars (Decimal.ofInt n.number)
  | .float bits => encodeDouble (widenByDigits bits.toNat)
  | .double bits => encodeDouble bits.toNat
  | .string s => quote s
  | .bytes s => 0x22 :: (Hex.encode s ++ [0x22])
  | .container d => encode d
  | .array items => 0x5B :: (joined (encodeItems items) ++ [0x5D])

/-- Values as JSON. -/
def encodeItems : List Value → List Bytes
  | [] => []
  | v :: rest => encodeValue v :: encodeItems rest

/-- Named values as members. -/
def encodeMembers : List Named → List Bytes
  | [] => []
  | ⟨name, v⟩ :: rest => member name (encodeValue v) :: encodeMembers rest

/-- A document as JSON. -/
def encode : Document → Bytes
  | ⟨header, values⟩ =>
    braced
      [member "header" (braced (header.wireFields.map fun (field, value) =>
        member field.name (quote value))),
       member "values" (braced (encodeMembers values))]

end

/-- All fields of a header as JSON. -/
def encodeHeader (h : Header) : Bytes :=
  braced (Field.listed.map fun field => member field.name (quote (h.get field)))

end Parcel.Json
