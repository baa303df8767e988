import Parcel.MessagePack.Marker
import Parcel.Unicode.Utf8
import Parcel.Value

/-!
# Reading MessagePack

A document is a map; its entries `header` and `values` count, the last of each when there are
several, and other entries are skipped. A header is a map or an array of texts. Keys are texts, or
bytes that are texts; header keys may also be the positions of the fields. Maps and arrays may be
nested up to a limit, and containers up to another. What follows the document is not looked at.

## Main definitions

* `MessagePack.decode` — a document from MessagePack
* `MessagePack.Fault` — why an input is no document
-/

namespace Parcel.MessagePack

/-- Why an input is no document. -/
inductive Fault where
  /-- It ends early, or holds something out of place. -/
  | malformed
  /-- Containers are nested too deeply. -/
  | tooDeep
  deriving DecidableEq, Inhabited

/-- How many maps and arrays may be open at once. -/
def nestingLimit : Nat := 1023

/-- Success or a malformed input. -/
def orMalformed {α : Type} : Option α → Except Fault α
  | some a => .ok a
  | none => .error .malformed

mutual

/-- Skips an object, with room for further maps and arrays. -/
def skipWithin : Nat → Nat → Bytes → Option Bytes
  | 0, _, _ => none
  | fuel + 1, room, s => do
    let (head, rest) ← head? s
    match head with
    | .text n | .binary n | .extension n => (split? n rest).map (·.2)
    | .array n => if room = 0 then none else skipManyWithin fuel (room - 1) n rest
    | .map n => if room = 0 then none else skipManyWithin fuel (room - 1) (2 * n) rest
    | _ => some rest

/-- Skips so many objects. -/
def skipManyWithin : Nat → Nat → Nat → Bytes → Option Bytes
  | _, _, 0, s => some s
  | 0, _, _ + 1, _ => none
  | fuel + 1, room, n + 1, s => skipWithin fuel room s >>= skipManyWithin fuel room n

end

/-- Skips an object, with `room` for that many levels inside; each object takes at least one byte.
-/
def skip (room : Nat) (s : Bytes) : Except Fault Bytes :=
  orMalformed (skipWithin (2 * s.length + 2) room s)

/-- Reads the bytes of a text or of bytes. -/
def rawText? (s : Bytes) : Option (Bytes × Bytes) := do
  let (head, rest) ← head? s
  match head with
  | .text n | .binary n => split? n rest
  | _ => none

/-- Reads a text, or bytes that are a text. -/
def text (s : Bytes) : Except Fault (String × Bytes) := do
  let (raw, rest) ← orMalformed (rawText? s)
  let t ← orMalformed (Utf8.decode raw).toOption
  return (t, rest)

/-- Reads the key of a header field: a name, or a position in the order in which a header lists
its fields. -/
def fieldKey (s : Bytes) : Except Fault (Option Field × Bytes) := do
  let (head, rest) ← orMalformed (head? s)
  match head with
  | .text n | .binary n =>
    let (raw, rest) ← orMalformed (split? n rest)
    return ((Utf8.decode raw).toOption.bind Field.ofName?, rest)
  | .integer n true => return (Field.listed[n.toNat]?, rest)
  | _ => .error .malformed

/-- Reads so many header fields by key, in place of those of `h`; `seen` holds the fields already
given. -/
def headerEntries (room : Nat) (h : Header) (seen : List Field) :
    Nat → Bytes → Except Fault (Header × Bytes)
  | 0, s => .ok (h, s)
  | n + 1, s => do
    let (field?, s) ← fieldKey s
    match field? with
    | none =>
      let s ← skip room s
      headerEntries room h seen n s
    | some field =>
      if seen.contains field then .error .malformed
      else
        let (value, s) ← text s
        headerEntries room (h.set field value) (field :: seen) n s

/-- Reads so many header fields by position. -/
def headerItems (h : Header) : List Field → Nat → Bytes → Except Fault (Header × Bytes)
  | _, 0, s => .ok (h, s)
  | [], _ + 1, _ => .error .malformed
  | field :: fields, n + 1, s => do
    let (value, s) ← text s
    headerItems (h.set field value) fields n s

/-- Reads a header, with room for further maps and arrays. No bytes stand for no fields. -/
def header (room : Nat) (s : Bytes) : Except Fault (Header × Bytes) := do
  let (head, rest) ← orMalformed (head? s)
  match head with
  | .map n => if room = 0 then .error .malformed else headerEntries (room - 1) {} [] n rest
  | .array n => if room = 0 then .error .malformed else headerItems {} Field.listed n rest
  | .binary 0 => return ({}, rest)
  | _ => .error .malformed

/-- The kinds an integer is read as, the narrowest first. -/
def integerKinds : List IntegerKind := [.int, .long, .ulong]

mutual

/-- Reads a value inside `depth` containers, with room for further maps and arrays. -/
def valueWithin : Nat → Nat → Nat → Bytes → Except Fault (Value × Bytes)
  | 0, _, _, _ => .error .malformed
  | fuel + 1, room, depth, s => do
    let (head, rest) ← orMalformed (head? s)
    match head with
    | .nil => return (.null, rest)
    | .bool b => return (.bool b, rest)
    | .integer n _ =>
      let i ← orMalformed (Integer.narrowest? integerKinds n)
      return (.integer i, rest)
    | .float bits => return (.float bits, rest)
    | .double bits => return (.double bits, rest)
    | .text n =>
      let (raw, rest) ← orMalformed (split? n rest)
      -- text that is no UTF-8 is taken as bytes
      match Utf8.decode raw with
      | .ok t => return (.string t, rest)
      | .error _ => return (.bytes raw, rest)
    | .binary n =>
      let (raw, rest) ← orMalformed (split? n rest)
      return (.bytes raw, rest)
    | .array n =>
      if room = 0 then .error .malformed
      else
        let (items, rest) ← itemsWithin fuel (room - 1) depth n rest
        return (.array items, rest)
    | .map n =>
      if room = 0 then .error .malformed
      else if Document.depthLimit ≤ depth then .error .tooDeep
      else
        let (d, rest) ← documentWithin fuel (room - 1) (depth + 1) .empty n rest
        return (.container d, rest)
    -- no kind of value is written as an extension
    | .extension _ => .error .malformed

/-- Reads so many values. -/
def itemsWithin : Nat → Nat → Nat → Nat → Bytes → Except Fault (List Value × Bytes)
  | _, _, _, 0, s => .ok ([], s)
  | 0, _, _, _ + 1, _ => .error .malformed
  | fuel + 1, room, depth, n + 1, s => do
    let (v, s) ← valueWithin fuel room depth s
    let (vs, s) ← itemsWithin fuel room depth n s
    return (v :: vs, s)

/-- Reads so many named values. -/
def namedWithin : Nat → Nat → Nat → Nat → Bytes → Except Fault (List Named × Bytes)
  | _, _, _, 0, s => .ok ([], s)
  | 0, _, _, _ + 1, _ => .error .malformed
  | fuel + 1, room, depth, n + 1, s => do
    let (name, s) ← text s
    let (v, s) ← valueWithin fuel room depth s
    let (vs, s) ← namedWithin fuel room depth n s
    return (⟨name, v⟩ :: vs, s)

/-- Reads so many entries of a document, in place of what `d` holds. -/
def documentWithin : Nat → Nat → Nat → Document → Nat → Bytes → Except Fault (Document × Bytes)
  | _, _, _, d, 0, s => .ok (d, s)
  | 0, _, _, _, _ + 1, _ => .error .malformed
  | fuel + 1, room, depth, d, n + 1, s => do
    let (key, s) ← text s
    if key = "header" then
      let (header, s) ← header room s
      documentWithin fuel room depth { d with header } n s
    else if key = "values" then
      match ← orMalformed (head? s) with
      | (.map m, s) =>
        if room = 0 then .error .malformed
        else
          let (values, s) ← namedWithin fuel (room - 1) depth m s
          documentWithin fuel room depth { d with values } n s
      | _ => .error .malformed
    else
      -- whatever stands under another name is passed over
      let s ← skip room s
      documentWithin fuel room depth d n s

end

/-- A document from MessagePack. Every step takes at least one byte, so twice the length of the
input is allowance enough. -/
def decode (s : Bytes) : Except Fault Document := do
  match ← orMalformed (head? s) with
  | (.map n, rest) =>
    let (d, _) ← documentWithin (2 * s.length + 2) (nestingLimit - 1) 0 .empty n rest
    return d
  | _ => .error .malformed

end Parcel.MessagePack
