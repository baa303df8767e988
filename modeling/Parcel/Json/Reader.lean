import Parcel.Json.Numeral
import Parcel.Json.Text

/-!
# Reading JSON

A document is an object; its members `header` and `values` count, the last of each when there are
several, and other members are skipped whatever they hold. A header is an object of strings or an
array of them in the order in which a header lists its fields. Brackets may be nested up to a
limit, skipped members apart, and containers up to another.

## Main definitions

* `Json.decode?` — a document from JSON
* `Json.decodeHeader?` — a header from JSON
-/

namespace Parcel.Json

/-- How many brackets may be open at once. -/
def bracketLimit : Nat := 127

/-- The text of a string value. -/
def asText? : Tree → Option String
  | .string raw => text? raw
  | _ => none

/-- Header fields in place of those of `h`; `seen` holds the fields already given. -/
def headerMembers (h : Header) (seen : List Field) : List Member → Option Header
  | [] => some h
  | ⟨key, value⟩ :: rest => do
    let key ← text? key
    match Field.ofName? key with
    | none => headerMembers h seen rest
    | some field =>
      if seen.contains field then none
      else
        let value ← asText? value
        headerMembers (h.set field value) (field :: seen) rest

/-- Header fields given by position in place of those of `h`. -/
def headerItems (h : Header) : List Field → List Tree → Option Header
  | _, [] => some h
  | [], _ :: _ => none
  | field :: fields, item :: rest => do
    let value ← asText? item
    headerItems (h.set field value) fields rest

/-- The header that a value describes, with `room` for further brackets. -/
def headerOf? (room : Nat) : Tree → Option Header
  | .object members => if room = 0 then none else headerMembers {} [] members
  | .array items => if room = 0 then none else headerItems {} Field.listed items
  | _ => none

mutual

/-- A value inside `depth` containers, with `room` for further brackets. -/
def valueOf? (room depth : Nat) : Tree → Option Value
  | .null => some .null
  | .bool b => some (.bool b)
  | .number n => n.value?
  | .string raw => (text? raw).map .string
  | .array items => if room = 0 then none else (itemsOf? (room - 1) depth items).map .array
  | .object members =>
    if room = 0 ∨ Document.depthLimit ≤ depth then none
    else (documentOf? (room - 1) (depth + 1) .empty members).map .container

/-- Values from JSON, with `room` for that many open brackets and below `depth` containers. -/
def itemsOf? (room depth : Nat) : List Tree → Option (List Value)
  | [] => some []
  | item :: rest => do
    let v ← valueOf? room depth item
    let vs ← itemsOf? room depth rest
    return v :: vs

/-- Named values from members. -/
def namedOf? (room depth : Nat) : List Member → Option (List Named)
  | [] => some []
  | ⟨key, value⟩ :: rest => do
    let name ← text? key
    let v ← valueOf? room depth value
    let vs ← namedOf? room depth rest
    return ⟨name, v⟩ :: vs

/-- The values that a value describes. -/
def valuesOf? (room depth : Nat) : Tree → Option (List Named)
  | .object members => if room = 0 then none else namedOf? (room - 1) depth members
  | _ => none

/-- The document that members describe, where `d` is described so far. -/
def documentOf? (room depth : Nat) (d : Document) : List Member → Option Document
  | [] => some d
  | ⟨key, value⟩ :: rest => do
    let key ← text? key
    if key = "header" then
      let header ← headerOf? room value
      documentOf? room depth { d with header } rest
    else if key = "values" then
      let values ← valuesOf? room depth value
      documentOf? room depth { d with values } rest
    else documentOf? room depth d rest

end

/-- A document from JSON. -/
def decode? (s : Bytes) : Option Document := do
  match ← parse? s with
  | .object members => documentOf? (bracketLimit - 1) 0 .empty members
  | _ => none

/-- A header from JSON. -/
def decodeHeader? (s : Bytes) : Option Header := (parse? s).bind (headerOf? bracketLimit)

end Parcel.Json
