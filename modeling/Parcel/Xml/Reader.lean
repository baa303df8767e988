import Parcel.Value
import Parcel.Xml.Parser

/-!
# Reading XML

An element without children is a string, one whose only child is a container element is a nested
container, and any other is an array. Of several headers, and of several value lists, the first
counts.

## Main definitions

* `Xml.decode` — a document from XML
-/

namespace Parcel.Xml

/-- A header from the children of a header element; unknown ones are ignored. -/
def headerOf (fields : List Element) : Header :=
  Header.setAll {} (fields.filterMap fun e =>
    (Field.ofName? e.name).map (·, Unicode.trim e.text))

/-- The children of the first of `elements` that has the given `name`. -/
def childrenOf (name : String) (elements : List Element) : List Element :=
  match elements.find? (·.name == name) with
  | some e => e.children
  | none => []

mutual

/-- The document of a container element inside `depth` containers and arrays. -/
def documentOf (depth : Nat) : Element → Except Fault Document
  | ⟨name, _, children⟩ =>
    if name ≠ "container" then .error (.root name)
    else if Document.depthLimit < depth then .error .tooDeep
    else (valuesAmong depth children).map fun values =>
      ⟨headerOf (childrenOf "header" children), values⟩

/-- The values of the first value list among the children of a container element. -/
def valuesAmong (depth : Nat) : List Element → Except Fault (List Named)
  | [] => .ok []
  | ⟨name, _, children⟩ :: rest =>
    if name = "values" then namedOf depth children else valuesAmong depth rest

/-- Named values. -/
def namedOf (depth : Nat) : List Element → Except Fault (List Named)
  | [] => .ok []
  | ⟨name, text, children⟩ :: rest => do
    let v ← valueOf depth ⟨name, text, children⟩
    let vs ← namedOf depth rest
    return ⟨name, v⟩ :: vs

/-- The value of an element inside `depth` containers and arrays. -/
def valueOf (depth : Nat) : Element → Except Fault Value
  | ⟨_, text, []⟩ => .ok (.string text)
  | ⟨_, _, [⟨name, text, children⟩]⟩ =>
    if name = "container" then (documentOf (depth + 1) ⟨name, text, children⟩).map .container
    else (valueOf (depth + 1) ⟨name, text, children⟩).map fun v => .array [v]
  | ⟨_, _, first :: second :: rest⟩ => do
    let v ← valueOf (depth + 1) first
    let w ← valueOf (depth + 1) second
    let vs ← itemsOf (depth + 1) rest
    return .array (v :: w :: vs)

/-- The values of elements. -/
def itemsOf (depth : Nat) : List Element → Except Fault (List Value)
  | [] => .ok []
  | e :: rest => do
    let v ← valueOf depth e
    let vs ← itemsOf depth rest
    return v :: vs

end

/-- A document from XML. -/
def decode (s : Bytes) : Except Fault Document := parse s >>= documentOf 0

end Parcel.Xml
