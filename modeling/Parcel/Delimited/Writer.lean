import Parcel.Draft
import Parcel.Format
import Parcel.Hex
import Parcel.Number.Layout
import Parcel.Value

/-!
# Writing the text format

A document is written as a header block and a data block of bracketed pairs. Strings and bytes are
written as they are, so a payload that contains the end of a pair cannot be written; neither can a
name that is empty or contains a delimiter. Nested containers and arrays are written in
hexadecimal, an array as a data block whose names are the positions of the items.

## Main definitions

* `Delimited.encode` — the draft of a document
* `Delimited.encodeValue` — the draft of one value
* `Delimited.Refusal` — what cannot be written
-/

namespace Parcel.Delimited

/-- What the text format cannot carry. -/
inductive Refusal where
  /-- The value has a `name` that is empty or contains a delimiter. -/
  | unusableName (name : String)
  /-- The payload under `name` contains the end of a pair. -/
  | unusablePayload (name : String)
  deriving DecidableEq

/-- The wording of a refusal. -/
def Refusal.message : Refusal → String
  | .unusableName name => "value name '" ++ name ++ "' is empty or contains a delimiter"
  | .unusablePayload name =>
    "'" ++ name ++ "' contains the pair terminator \"];\" which the text format cannot carry"

/-- A refusal as an error. -/
def Refusal.error (r : Refusal) : Error := .encodingError r.message

/-- Opens a block. -/
def openBraces : Bytes := Utf8.encode "=\x7b\x7b"

/-- Closes a block. -/
def closeBraces : Bytes := Utf8.encode "\x7d\x7d;"

/-- Ends a pair. -/
def terminator : Bytes := Utf8.encode "];"

/-- Whether a payload contains the end of a pair. -/
def hasTerminator (s : Bytes) : Bool :=
  (Bytes.offsetOfPair? (Bytes.ofChar ']') (Bytes.ofChar ';') s).isSome

/-- Whether a byte delimits the parts of a pair. -/
def isDelimiter (b : UInt8) : Bool :=
  b == Bytes.ofChar ',' || b == Bytes.ofChar '[' || b == Bytes.ofChar ']'

/-- Whether a name can be written. -/
def isName (name : Bytes) : Bool := !name.isEmpty && !name.any isDelimiter

/-- A payload `s` written as it is, refused when it contains the end of a pair. -/
def verbatim (name : String) (s : Bytes) : Draft :=
  if hasTerminator s then .stop (Refusal.unusablePayload name).error else .of s

/-- The bytes of the decimal text of a number. -/
def numeral (n : Nat) : Bytes := Utf8.encodeChars (Decimal.ofNat n)

/-- The pairs of the header block. -/
def encodeFields : List (Field × String) → Draft
  | [] => .of []
  | (field, value) :: rest =>
    let payload := Utf8.encode value
    Draft.require (!hasTerminator payload) (Refusal.unusablePayload field.name).error ++
      (.of (Bytes.ofChar '[' :: numeral field.number ++ Bytes.ofChar ',' :: payload ++
        terminator) ++ encodeFields rest)

/-- The header block. -/
def encodeHeader (h : Header) : Draft :=
  .of (Format.headerMark ++ openBraces) ++ (encodeFields h.wireFields ++ .of closeBraces)

/-- A pair of the data block around the draft `value`. -/
def encodePair (name : String) (kind : Kind) (value : Draft) : Draft :=
  let bytes := Utf8.encode name
  Draft.require (isName bytes) (Refusal.unusableName name).error ++
    (.of (Bytes.ofChar '[' :: bytes ++ Bytes.ofChar ',' :: numeral kind.tag ++
      [Bytes.ofChar ',']) ++ (value ++ .of terminator))

/-- The data block around the draft of its pairs. -/
def dataBlock (pairs : Draft) : Draft :=
  .of (Format.dataMark ++ openBraces) ++ (pairs ++ .of closeBraces)

mutual

/-- A value in the text format; `name` appears in refusals. -/
def encodeValue (name : String) : Value → Draft
  | .null => .of []
  | .bool b => .of (Utf8.encode (if b then "true" else "false"))
  | .integer n => .of (Utf8.encodeChars (Decimal.ofInt n.number))
  | .float bits => .of (Utf8.encodeChars (Number.display Binary.single bits.toNat))
  | .double bits => .of (Utf8.encodeChars (Number.display Binary.double bits.toNat))
  | .string s => verbatim name (Utf8.encode s)
  | .bytes s => verbatim name s
  | .container d => (encode d).wrap Hex.encode
  | .array items => (dataBlock (encodeItems 0 items)).wrap Hex.encode

/-- The pairs of an array, named by position from `index` on. -/
def encodeItems (index : Nat) : List Value → Draft
  | [] => .of []
  | v :: rest =>
    let name := Decimal.text index
    encodePair name v.kind (encodeValue name v) ++ encodeItems (index + 1) rest

/-- The pairs of a document. -/
def encodeValues : List Named → Draft
  | [] => .of []
  | ⟨name, v⟩ :: rest => encodePair name v.kind (encodeValue name v) ++ encodeValues rest

/-- A document in the text format. -/
def encode : Document → Draft
  | ⟨header, values⟩ => encodeHeader header ++ dataBlock (encodeValues values)

end

end Parcel.Delimited
