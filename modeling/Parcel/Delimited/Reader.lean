import Parcel.Delimited.Scanner
import Parcel.Number.Layout

/-!
# Reading the text format

Decodes the values that a scan has found. Nested containers and arrays are scanned in turn, as deep
as the depth limit allows; an allowance counts the levels that are left.

## Main definitions

* `Delimited.decodeValue` — a value of a given kind
* `Delimited.decode` — a document
* `Delimited.Entry.materialize` — the named value of an entry
-/

namespace Parcel.Delimited

/-- The characters of the literal `raw` without the white space around it. -/
def literal (kind : Kind) (raw : Bytes) : Except Fault (List Char) :=
  (text kind.name raw).map fun s => Unicode.trimChars s.toList

/-- An integer literal of a kind: an optional sign, the minus sign only for signed kinds, and
decimal digits. -/
def integerLiteral? (kind : IntegerKind) (cs : List Char) : Option Integer :=
  (if kind.width.signed then Decimal.integer? cs else (Decimal.natural? cs).map Int.ofNat).bind
    (Integer.ofInt? kind)

/-- The value that a literal denotes, when `read` takes it. -/
def parsed (kind : Kind) (raw : Bytes) (read : List Char → Option Value) : Except Fault Value := do
  let cs ← literal kind raw
  match read cs with
  | some v => return v
  | none => .error (.literal kind (String.ofList cs))

/-- The bytes that a hexadecimal payload stands for. -/
def unhex (kind : Kind) (raw : Bytes) : Except Fault Bytes := do
  let digits ← literal kind raw
  (Hex.decode (Utf8.encodeChars digits)).mapError (.payload kind)

/-- The named value of an entry, given `readValue` for its payload. -/
def Entry.readWith (readValue : Kind → Bytes → Except Fault Value) (e : Entry) :
    Except Fault Named := do
  let name ← text "value name" e.name.bytes
  let value ← readValue e.kind e.value.bytes
  return ⟨name, value⟩

/-- A document, given `readValue` for the payloads. -/
def decodeWith (readValue : Kind → Bytes → Except Fault Value) (s : Bytes) :
    Except Fault Document := do
  let scan ← scan s
  let values ← scan.entries.mapM (Entry.readWith readValue)
  return ⟨scan.header, values⟩

/-- A value of a kind, with an allowance of levels for it and what it contains. -/
def decodeWithin : Nat → Kind → Bytes → Except Fault Value
  | 0, _, _ => .error .tooDeep
  | levels + 1, kind, raw =>
    match kind with
    | .null => .ok .null
    | .bool => (literal kind raw).map fun cs => .bool (cs == ['t', 'r', 'u', 'e'] || cs == ['1'])
    | .integer k => parsed kind raw fun cs => (integerLiteral? k cs).map .integer
    | .float => parsed kind raw fun cs =>
      (Number.read? Binary.single cs).map fun bits => .float bits.toUInt32
    | .double => parsed kind raw fun cs =>
      (Number.read? Binary.double cs).map fun bits => .double bits.toUInt64
    | .string => (text "string value" raw).map .string
    | .bytes => .ok (.bytes raw)
    | .container => do
      let inner ← unhex kind raw
      let d ← decodeWith (decodeWithin levels) inner
      return .container d
    | .array => do
      let inner ← unhex kind raw
      let scan ← scan inner
      let items ← scan.entries.mapM fun e => decodeWithin levels e.kind e.value.bytes
      return .array items

/-- The levels left to a value that stands inside `depth` containers and arrays. -/
def levelsAt (depth : Nat) : Nat := Document.depthLimit + 1 - depth

/-- A value of a kind that stands inside `depth` containers and arrays. -/
def decodeValue (kind : Kind) (raw : Bytes) (depth : Nat) : Except Fault Value :=
  decodeWithin (levelsAt depth) kind raw

/-- The named value of an entry that stands inside `depth` containers and arrays. -/
def Entry.materialize (e : Entry) (depth : Nat) : Except Fault Named :=
  e.readWith fun kind raw => decodeValue kind raw depth

/-- A document. -/
def decode (s : Bytes) : Except Fault Document := decodeWith (fun k raw => decodeValue k raw 0) s

end Parcel.Delimited
