import Parcel.Codec
import Parcel.Writing

/-!
# Encoding piece by piece

The four writers as they work on a buffer: each puts one small piece after another behind what the
buffer already holds, and stops where it meets something that its format cannot carry. The text
format writes nested containers and arrays into a buffer of their own before it writes their
hexadecimal digits, MessagePack does so with nested containers, and XML with the whole document.

## Main definitions

* `Delimited.emit`, `Xml.emit`, `Json.emit`, `MessagePack.emit` — the writer of each format
* `Codec.writeInto` — the writer of a format run on a buffer
-/

namespace Parcel

open Writing (put require aside)

/-! ## The text format -/

namespace Delimited

/-- Refuses the `payload` of the value `name` when it contains the end of a pair. -/
def checkVerbatim (name : String) (payload : Bytes) : Writing UInt8 Unit :=
  require (!hasTerminator payload) (Refusal.unusablePayload name).error

/-- The pairs of the header block. -/
def emitFields : List (Field × String) → Writing UInt8 Unit
  | [] => pure ()
  | (field, value) :: rest => do
    let payload := Utf8.encode value
    -- nothing of a pair is written before its payload has passed
    checkVerbatim field.name payload
    put [Bytes.ofChar '[']
    put (numeral field.number)
    put [Bytes.ofChar ',']
    put payload
    put terminator
    emitFields rest

/-- A pair of the data block around the action `value`. -/
def emitPair (name : String) (kind : Kind) (value : Writing UInt8 Unit) : Writing UInt8 Unit := do
  let bytes := Utf8.encode name
  require (isName bytes) (Refusal.unusableName name).error
  put [Bytes.ofChar '[']
  put bytes
  put [Bytes.ofChar ',']
  put (numeral kind.tag)
  put [Bytes.ofChar ',']
  value
  put terminator

/-- The data block around the action that writes its pairs. -/
def emitBlock (pairs : Writing UInt8 Unit) : Writing UInt8 Unit := do
  put (Format.dataMark ++ openBraces)
  pairs
  put closeBraces

mutual

/-- A value; `name` appears in refusals. -/
def emitValue (name : String) : Value → Writing UInt8 Unit
  | .null => pure ()
  | .bool b => put (Utf8.encode (if b then "true" else "false"))
  | .integer n => put (Utf8.encodeChars (Decimal.ofInt n.number))
  | .float bits => put (Utf8.encodeChars (Number.display Binary.single bits.toNat))
  | .double bits => put (Utf8.encodeChars (Number.display Binary.double bits.toNat))
  | .string s => do
    checkVerbatim name (Utf8.encode s)
    put (Utf8.encode s)
  | .bytes s => do
    checkVerbatim name s
    put s
  | .container d => do
    -- the digits stand for the whole encoding, so it has to be there before the first of them
    let inner ← aside (emit d)
    put (Hex.encode inner)
  | .array items => do
    let inner ← aside (emitBlock (emitItems 0 items))
    put (Hex.encode inner)

/-- The pairs of an array, named by position from `index` on. -/
def emitItems (index : Nat) : List Value → Writing UInt8 Unit
  | [] => pure ()
  | v :: rest => do
    emitPair (Decimal.text index) v.kind (emitValue (Decimal.text index) v)
    emitItems (index + 1) rest

/-- The pairs of a document. -/
def emitValues : List Named → Writing UInt8 Unit
  | [] => pure ()
  | ⟨name, v⟩ :: rest => do
    emitPair name v.kind (emitValue name v)
    emitValues rest

/-- A document in the text format. -/
def emit : Document → Writing UInt8 Unit
  | ⟨header, values⟩ => do
    put (Format.headerMark ++ openBraces)
    emitFields header.wireFields
    put closeBraces
    emitBlock (emitValues values)

end

end Delimited

/-! ## XML -/

namespace Xml

/-- An opening tag. -/
def emitOpen (tag : List Char) : Writing Char Unit := do
  put ['<']
  put tag
  put ['>']

/-- A closing tag. -/
def emitClose (tag : List Char) : Writing Char Unit := do
  put ['<', '/']
  put tag
  put ['>']

/-- Text, one character after another. -/
def emitEscaped : List Char → Writing Char Unit
  | [] => pure ()
  | c :: rest => do
    put (escapeChar c)
    emitEscaped rest

/-- An element that holds text. -/
def emitText (tag text : List Char) : Writing Char Unit := do
  emitOpen tag
  emitEscaped text
  emitClose tag

/-- The elements of the header fields. -/
def emitFields : List (Field × String) → Writing Char Unit
  | [] => pure ()
  | (field, value) :: rest => do
    emitText field.name.toList value.toList
    emitFields rest

mutual

/-- A value as an element of the given name. -/
def emitValue (tag : List Char) : Value → Writing Char Unit
  | .container d => do
    emitOpen tag
    emitDocument d
    emitClose tag
  | .array items => do
    emitOpen tag
    emitItems items
    emitClose tag
  | v => emitText tag v.display.toList

/-- The items of an array. -/
def emitItems : List Value → Writing Char Unit
  | [] => pure ()
  | v :: rest => do
    emitValue itemTag v
    emitItems rest

/-- Named values. -/
def emitValues : List Named → Writing Char Unit
  | [] => pure ()
  | ⟨name, v⟩ :: rest => do
    -- only names of values are checked: those of fields and items are always usable
    require (isName name.toList) (refusal name)
    emitValue name.toList v
    emitValues rest

/-- A document as an element. -/
def emitDocument : Document → Writing Char Unit
  | ⟨header, values⟩ => do
    emitOpen containerTag
    emitOpen headerTag
    emitFields header.wireFields
    emitClose headerTag
    emitOpen valuesTag
    emitValues values
    emitClose valuesTag
    emitClose containerTag

end

/-- A document as XML. -/
def emit (d : Document) : Writing UInt8 Unit := do
  -- characters become bytes at the end, when all of them are known
  let text ← aside (emitDocument d)
  put (Utf8.encodeChars text)

end Xml

/-! ## JSON -/

namespace Json

/-- A comma before every item but the first. -/
def emitComma (first : Bool) : Writing UInt8 Unit := if first then pure () else put [0x2C]

/-- A key, and the colon before its value. -/
def emitKey (key : String) : Writing UInt8 Unit := do
  put (quote key)
  put [0x3A]

/-- The members of the header object; `first` when none is written yet. -/
def emitFields (first : Bool) : List (Field × String) → Writing UInt8 Unit
  | [] => pure ()
  | (field, value) :: rest => do
    emitComma first
    emitKey field.name
    put (quote value)
    emitFields false rest

mutual

/-- A value. -/
def emitValue : Value → Writing UInt8 Unit
  | .null => put nullText
  | .bool b => put (Utf8.encode (if b then "true" else "false"))
  | .integer n => put (Utf8.encodeChars (Decimal.ofInt n.number))
  | .float bits => put (encodeDouble (widenByDigits bits.toNat))
  | .double bits => put (encodeDouble bits.toNat)
  | .string s => put (quote s)
  | .bytes s => do
    put [0x22]
    put (Hex.encode s)
    put [0x22]
  | .container d => emit d
  | .array items => do
    put [0x5B]
    emitItems true items
    put [0x5D]

/-- The items of an array; `first` when none is written yet. -/
def emitItems (first : Bool) : List Value → Writing UInt8 Unit
  | [] => pure ()
  | v :: rest => do
    emitComma first
    emitValue v
    emitItems false rest

/-- Named values as members; `first` when none is written yet. -/
def emitMembers (first : Bool) : List Named → Writing UInt8 Unit
  | [] => pure ()
  | ⟨name, v⟩ :: rest => do
    emitComma first
    emitKey name
    emitValue v
    emitMembers false rest

/-- A document as JSON. -/
def emit : Document → Writing UInt8 Unit
  | ⟨header, values⟩ => do
    put [0x7B]
    emitKey "header"
    put [0x7B]
    emitFields true header.wireFields
    put [0x7D]
    emitComma false
    emitKey "values"
    put [0x7B]
    emitMembers true values
    put [0x7D]
    put [0x7D]

end

end Json

/-! ## MessagePack -/

namespace MessagePack

/-- A text. -/
def emitText (s : String) : Writing UInt8 Unit := do
  put (Head.text (Utf8.encode s).length).write
  put (Utf8.encode s)

/-- Bytes. -/
def emitBinary (s : Bytes) : Writing UInt8 Unit := do
  put (Head.binary s.length).write
  put s

/-- Header fields by name. -/
def emitFields : List (Field × String) → Writing UInt8 Unit
  | [] => pure ()
  | (field, value) :: rest => do
    emitText field.name
    emitText value
    emitFields rest

mutual

/-- A value. -/
def emitValue : Value → Writing UInt8 Unit
  | .null => put Head.nil.write
  | .bool b => put (Head.bool b).write
  | .integer n => put (Head.integer n.number true).write
  | .float bits => put (Head.float bits).write
  | .double bits => put (Head.double bits).write
  | .string s => emitText s
  | .bytes s => emitBinary s
  | .container d => do
    -- the length of the blob stands in front of it
    let blob ← aside (emit d)
    emitBinary blob
  | .array items => do
    put (Head.array items.length).write
    emitItems items

/-- The items of an array. -/
def emitItems : List Value → Writing UInt8 Unit
  | [] => pure ()
  | v :: rest => do
    emitValue v
    emitItems rest

/-- Values by name. -/
def emitValues : List Named → Writing UInt8 Unit
  | [] => pure ()
  | ⟨name, v⟩ :: rest => do
    emitText name
    emitValue v
    emitValues rest

/-- A document. -/
def emit : Document → Writing UInt8 Unit
  | ⟨header, values⟩ => do
    put (Head.map 2).write
    emitText "header"
    put (Head.map header.wireFields.length).write
    emitFields header.wireFields
    emitText "values"
    put (Head.map values.length).write
    emitValues values

end

end MessagePack

/-! ## Any format -/

namespace Codec

/-- The writer of a format. -/
def emit : Format → Document → Writing UInt8 Unit
  | .text => Delimited.emit
  | .json => Json.emit
  | .xml => Xml.emit
  | .msgpack => MessagePack.emit

/-- Writes a document into a `buffer` piece by piece: what the buffer holds afterwards, and whether
the document was written to its end. -/
def writeInto (f : Format) (buffer : Bytes) (d : Document) : Bytes × Except Error Unit :=
  ((emit f d).onto buffer).swap

end Codec

end Parcel
