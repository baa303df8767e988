import Parcel.Hex
import Parcel.Number.Layout
import Parcel.Value

/-!
# Readable text

The text of a value for people and for the XML format: numbers in decimal, floating-point numbers
in full without an exponent, text as it is, bytes in hexadecimal. Nested containers show only how
many values they hold.
-/

namespace Parcel

/-- The text of a truth value. -/
def boolText (b : Bool) : String := if b then "true" else "false"

/-- How many values there are, in words. -/
def countText (n : Nat) : String := "(" ++ Decimal.text n ++ " values)"

mutual

/-- The text of a value. -/
def Value.display : Value → String
  | .null => ""
  | .bool b => boolText b
  | .integer n => String.ofList (Decimal.ofInt n.number)
  | .float bits => String.ofList (Number.display Binary.single bits.toNat)
  | .double bits => String.ofList (Number.display Binary.double bits.toNat)
  | .string s => s
  | .bytes s => Hex.text s
  | .container ⟨_, values⟩ => "container" ++ countText values.length
  | .array [] => "[]"
  | .array (v :: rest) => "[" ++ v.display ++ Value.displayRest rest ++ "]"

/-- The texts of further items of a list, each after a comma. -/
def Value.displayRest : List Value → String
  | [] => ""
  | v :: rest => "," ++ v.display ++ Value.displayRest rest

end

/-- The text of a document: its message type and version, and how many values it holds. -/
def Document.display (d : Document) : String :=
  d.header.messageType ++ " v" ++ d.header.version ++ " " ++ countText d.values.length

end Parcel
