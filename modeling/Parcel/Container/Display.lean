import Parcel.Container.Basic
import Parcel.Unicode.Quoted

/-!
# Diagnostic text

A container on one line: policy, header, number of decoded values, and the size of the kept text.
-/

namespace Parcel

/-- Named fields between braces after a title. -/
def Container.displayFields (title : String) (fields : List (String × String)) : String :=
  title ++ " \x7b " ++
    ", ".intercalate (fields.map fun (name, value) => name ++ ": " ++ value) ++ " \x7d"

/-- The diagnostic text of a header. -/
def Header.display (h : Header) : String :=
  Container.displayFields "Header"
    (Field.listed.map fun f => (f.name, Unicode.Quoted.text (h.get f)))

/-- The diagnostic text of a container. -/
def Container.display (c : Container) : String :=
  displayFields "ValueContainer" [
    ("policy", Unicode.Quoted.text c.policy.name),
    ("header", c.header.display),
    ("values", Decimal.text c.heldValues.length),
    ("materialized", if c.isMaterialized then "true" else "false"),
    ("raw_bytes", match c.raw? with
      | some raw => "Some(" ++ Decimal.text raw.bytes.length ++ ")"
      | none => "None")]

end Parcel
