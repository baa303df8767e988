import Parcel.Draft
import Parcel.Value.Display
import Parcel.Xml.Text

/-!
# Writing XML

A document is a container element with a header and values. Every value is an element of its name:
nested containers and arrays hold elements, every other value its readable text. A name that an
element cannot have is refused, and then nothing is written at all.

## Main definitions

* `Xml.encode` — a document as XML
-/

namespace Parcel.Xml

/-- The refusal of a name. -/
def refusal (name : String) : Error :=
  .encodingError ("'" ++ name ++ "' is not a valid XML element name")

/-- An element `name` around its `content`. -/
def wrapped (name : List Char) (content : List Char) : List Char :=
  '<' :: (name ++ '>' :: (content ++ '<' :: '/' :: (name ++ ['>'])))

/-- The name of the elements that hold documents. -/
def containerTag : List Char := ['c', 'o', 'n', 't', 'a', 'i', 'n', 'e', 'r']

/-- The name of the elements that hold headers. -/
def headerTag : List Char := ['h', 'e', 'a', 'd', 'e', 'r']

/-- The name of the elements that hold values. -/
def valuesTag : List Char := ['v', 'a', 'l', 'u', 'e', 's']

/-- The name of the elements that hold the items of an array. -/
def itemTag : List Char := ['i', 't', 'e', 'm']

/-- The header element. -/
def encodeHeader (h : Header) : List Char :=
  wrapped headerTag (h.wireFields.flatMap fun (field, value) =>
    wrapped field.name.toList (escape value.toList))

mutual

/-- A value as an element of the given name. -/
def encodeValue (tag : List Char) : Value → Except Error (List Char)
  | .container d => (encodeDocument d).map (wrapped tag)
  | .array items => (encodeItems items).map (wrapped tag)
  | v => .ok (wrapped tag (escape v.display.toList))

/-- The items of an array. -/
def encodeItems : List Value → Except Error (List Char)
  | [] => .ok []
  | v :: rest => do
    let first ← encodeValue itemTag v
    let others ← encodeItems rest
    return first ++ others

/-- Named values. -/
def encodeValues : List Named → Except Error (List Char)
  | [] => .ok []
  | ⟨name, v⟩ :: rest =>
    if isName name.toList then do
      let first ← encodeValue name.toList v
      let others ← encodeValues rest
      return first ++ others
    else .error (refusal name)

/-- A document as an element. -/
def encodeDocument : Document → Except Error (List Char)
  | ⟨header, values⟩ => (encodeValues values).map fun content =>
    wrapped containerTag (encodeHeader header ++ wrapped valuesTag content)

end

/-- A document as XML. -/
def encode (d : Document) : Draft :=
  match encodeDocument d with
  | .ok cs => .of (Utf8.encodeChars cs)
  | .error e => .stop e

end Parcel.Xml
