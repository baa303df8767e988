import Parcel.Bytes
import Parcel.Header
import Parcel.Kind

/-!
# Values and documents

A value is a payload of one of sixteen kinds. A document is a header with named values in order;
names may repeat. Documents are values in turn, and so are lists of values, so the three types are
defined together.

## Main definitions

* `Parcel.Value`, `Parcel.Named`, `Parcel.Document`
* `Value.kind` — the kind of a value
* `Document.get?` — the first value of a name
-/

namespace Parcel

mutual

/-- A payload. Floating-point numbers are kept as their bit patterns. -/
inductive Value where
  /-- No payload. -/
  | null
  /-- A truth value. -/
  | bool (b : Bool)
  /-- An integer of one of the eight kinds. -/
  | integer (n : Integer)
  /-- A 32-bit floating-point number. -/
  | float (bits : UInt32)
  /-- A 64-bit floating-point number. -/
  | double (bits : UInt64)
  /-- Text. -/
  | string (s : String)
  /-- Bytes. -/
  | bytes (s : Bytes)
  /-- A nested container. -/
  | container (d : Document)
  /-- A list of values. -/
  | array (items : List Value)

/-- A value with its name. -/
structure Named where
  /-- The name. -/
  name : String
  /-- The value. -/
  value : Value

/-- A header and named values in order. -/
structure Document where
  /-- The header. -/
  header : Header
  /-- The values; names may repeat. -/
  values : List Named

end

namespace Value

instance : Inhabited Value := ⟨null⟩

/-- The kind of a value. -/
def kind : Value → Kind
  | null => .null
  | bool _ => .bool
  | integer n => .integer n.kind
  | float _ => .float
  | double _ => .double
  | string _ => .string
  | bytes _ => .bytes
  | container _ => .container
  | array _ => .array

end Value

instance : Inhabited Named := ⟨⟨"", .null⟩⟩

/-- The kind of a named value. -/
def Named.kind (n : Named) : Kind := n.value.kind

/-- The first of `values` that has the given `name`. -/
def Named.find? (name : String) (values : List Named) : Option Named :=
  values.find? (·.name == name)

namespace Document

/-- How many levels documents may be nested in one another when they are read. -/
def depthLimit : Nat := 64

instance : Inhabited Document := ⟨⟨{}, []⟩⟩

/-- No values under the header of a new container. -/
def empty : Document := ⟨{}, []⟩

/-- The first value of a document that has the given `name`. -/
def get? (d : Document) (name : String) : Option Named := Named.find? name d.values

end Document

end Parcel
