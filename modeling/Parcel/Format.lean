import Parcel.Bytes
import Parcel.Error
import Parcel.Unicode.Utf8

/-!
# Wire formats

A container travels in one of four formats. The format of an input is recognised by its first
bytes: MessagePack by the marker of a map, the others by the first character after white space.

## Main definitions

* `Parcel.Format` — the four formats
* `Format.parse` — the format of a name, in any case
* `Format.detect?` — the format that an input starts like
-/

namespace Parcel

/-- The wire formats. -/
inductive Format where
  /-- The delimited text format. -/
  | text
  /-- JSON. -/
  | json
  /-- XML. -/
  | xml
  /-- MessagePack. -/
  | msgpack
  deriving DecidableEq, Inhabited

namespace Format

/-- All formats. -/
def all : List Format := [text, json, xml, msgpack]

/-- The name of a format. -/
def name : Format → String
  | text => "text"
  | json => "json"
  | xml => "xml"
  | msgpack => "msgpack"

/-- The name of a format as people write it. -/
def title : Format → String
  | text => "Text"
  | json => "JSON"
  | xml => "XML"
  | msgpack => "MessagePack"

/-- The format of exactly this name. -/
def ofName? (name : String) : Option Format := all.find? (·.name == name)

/-- The format of a name or of an alias, in any case. -/
def parse (name : String) : Except Error Format :=
  let lowered := String.ofList (name.toList.map Char.toLower)
  if lowered = "text" ∨ lowered = "binary" then .ok text
  else if lowered = "json" then .ok json
  else if lowered = "xml" then .ok xml
  else if lowered = "msgpack" ∨ lowered = "messagepack" then .ok msgpack
  else .error (.invalidFormat ("unknown format '" ++ lowered ++ "'"))

/-- Whether the format is made of characters. -/
def isTextual : Format → Bool
  | msgpack => false
  | _ => true

/-- Whether every kind of value comes back as it was. -/
def isLossless : Format → Bool
  | text => true
  | _ => false

/-- The mark that opens the header of the text format. -/
def headerMark : Bytes := Utf8.encode "@header"

/-- The mark that opens the values of the text format. -/
def dataMark : Bytes := Utf8.encode "@data"

/-- The marker of a MessagePack map. -/
def isMapMarker (b : UInt8) : Bool := (0x80 ≤ b && b ≤ 0x8F) || b == 0xDE || b == 0xDF

/-- The format of characters that an input starts like after white space. -/
def detectTextual? (s : Bytes) : Option Format :=
  match s with
  | [] => none
  | b :: _ =>
    if b = Bytes.ofChar '\x7b' ∨ b = Bytes.ofChar '[' then some json
    else if b = Bytes.ofChar '<' then some xml
    else if headerMark.isPrefixOf s ∨ dataMark.isPrefixOf s then some text
    else none

/-- The format that an input starts like. -/
def detect? (s : Bytes) : Option Format :=
  match s with
  | [] => none
  | b :: _ => if isMapMarker b then some msgpack else detectTextual? (Bytes.skipBlanks s)

end Format

end Parcel
