import Parcel.Number.Decimal
import Parcel.Unicode.Utf8
import Parcel.Value

/-!
# XML elements

The part of XML that documents use: elements with text and child elements. Attributes carry
nothing and are dropped.

## Main definitions

* `Xml.Element` — a tree of elements
* `Xml.Fault`, `Xml.Fault.message` — why an input is no document
-/

namespace Parcel.Xml

/-- An element: its name, its text, and its child elements. -/
inductive Element where
  /-- An element. -/
  | mk (name text : String) (children : List Element)

namespace Element

instance : Inhabited Element := ⟨⟨"", "", []⟩⟩

/-- The name of an element. -/
def name : Element → String
  | mk name _ _ => name

/-- The text of an element, its children's text apart. -/
def text : Element → String
  | mk _ text _ => text

/-- The child elements. -/
def children : Element → List Element
  | mk _ _ children => children

end Element

/-- What was looked for and not found. -/
inductive Expectation where
  /-- The given `mark`, somewhere ahead. -/
  | ahead (mark : String)
  /-- A name. -/
  | tagName
  /-- An element that is not nested too deeply. -/
  | shallower
  /-- The start of an element. -/
  | element
  /-- The end of a start tag. -/
  | startTagEnd
  /-- The end tag of the element `name`. -/
  | endTag (name : String)
  /-- The end tag of the element `name`, in place of that of `found`. -/
  | otherEndTag (name found : String)
  /-- The end of an end tag. -/
  | endTagEnd
  /-- The end of a section of character data. -/
  | sectionEnd
  /-- The end of an entity. -/
  | entityEnd
  /-- A known entity in place of `found`. -/
  | entity (found : String)
  /-- The end of the input. -/
  | finish
  deriving DecidableEq

/-- The wording of an expectation that was not met. -/
def Expectation.message : Expectation → String
  | .ahead mark => "missing '" ++ mark ++ "'"
  | .tagName => "expected element name"
  | .shallower => "elements nested too deeply"
  | .element => "expected '<'"
  | .startTagEnd => "unterminated start tag"
  | .endTag name => "missing </" ++ name ++ ">"
  | .otherEndTag name found => "expected </" ++ name ++ ">, found </" ++ found ++ ">"
  | .endTagEnd => "unterminated end tag"
  | .sectionEnd => "unterminated CDATA"
  | .entityEnd => "unterminated entity"
  | .entity found => "unknown entity '&" ++ found ++ ";'"
  | .finish => "content after root element"

/-- Why an input is no document. -/
inductive Fault where
  /-- The input is not text. -/
  | notText (fault : Utf8.Fault)
  /-- What is `expected` at `offset` is not there. -/
  | malformed (offset : Nat) (expected : Expectation)
  /-- The outermost element is not a container but `found`. -/
  | root (found : String)
  /-- Values are nested too deeply. -/
  | tooDeep
  deriving DecidableEq

/-- How many levels elements may be nested in one another. -/
def elementDepthLimit : Nat := Document.depthLimit * 3

/-- The wording of a fault. -/
def Fault.message : Fault → String
  | .notText fault => "XML is not UTF-8: " ++ fault.message
  | .malformed offset expected =>
    "malformed XML at byte " ++ Decimal.text offset ++ ": " ++ expected.message
  | .root found => "expected <container> root, found <" ++ found ++ ">"
  | .tooDeep => "containers nested deeper than " ++ Decimal.text Document.depthLimit

end Parcel.Xml
