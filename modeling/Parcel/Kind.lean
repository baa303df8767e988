import Parcel.Integer

/-!
# Kinds of values

Every value has one of sixteen kinds. Kinds are numbered by their type tags, which are part of the
text format.

## Main definitions

* `Parcel.Kind` — the kinds, the eight integer kinds under one constructor
* `Kind.all`, `Kind.tag`, `Kind.ofTag?` — the numbering
* `Kind.name`, `Kind.ofName?` — lower case names
-/

namespace Parcel

/-- The kind of a value. -/
inductive Kind where
  /-- No payload. -/
  | null
  /-- A truth value. -/
  | bool
  /-- An integer of one of the eight kinds, which `kind` is. -/
  | integer (kind : IntegerKind)
  /-- A 32-bit floating-point number. -/
  | float
  /-- A 64-bit floating-point number. -/
  | double
  /-- Text. -/
  | string
  /-- Bytes. -/
  | bytes
  /-- A nested container. -/
  | container
  /-- A list of values. -/
  | array
  deriving DecidableEq, Inhabited

namespace Kind

/-- All kinds in the order of their tags. -/
def all : List Kind :=
  [null, bool, integer .short, integer .ushort, integer .int, integer .uint, integer .long,
    integer .ulong, integer .llong, integer .ullong, float, double, string, bytes, container,
    array]

/-- The type tag. -/
def tag : Kind → Nat
  | null => 0
  | bool => 1
  | integer .short => 2
  | integer .ushort => 3
  | integer .int => 4
  | integer .uint => 5
  | integer .long => 6
  | integer .ulong => 7
  | integer .llong => 8
  | integer .ullong => 9
  | float => 10
  | double => 11
  | string => 12
  | bytes => 13
  | container => 14
  | array => 15

/-- The kind of a type tag. -/
def ofTag? (tag : Nat) : Option Kind := all[tag]?

/-- The name used in messages and in the named formats. -/
def name : Kind → String
  | null => "null"
  | bool => "bool"
  | integer .short => "short"
  | integer .ushort => "ushort"
  | integer .int => "int"
  | integer .uint => "uint"
  | integer .long => "long"
  | integer .ulong => "ulong"
  | integer .llong => "llong"
  | integer .ullong => "ullong"
  | float => "float"
  | double => "double"
  | string => "string"
  | bytes => "bytes"
  | container => "container"
  | array => "array"

/-- The kind of a name. -/
def ofName? (name : String) : Option Kind := all.find? (·.name == name)

/-- The name with its capitals, as diagnostics show it. -/
def title : Kind → String
  | null => "Null"
  | bool => "Bool"
  | integer .short => "Short"
  | integer .ushort => "UShort"
  | integer .int => "Int"
  | integer .uint => "UInt"
  | integer .long => "Long"
  | integer .ulong => "ULong"
  | integer .llong => "LLong"
  | integer .ullong => "ULLong"
  | float => "Float"
  | double => "Double"
  | string => "String"
  | bytes => "Bytes"
  | container => "Container"
  | array => "Array"

/-- Whether a value of the kind holds no memory of its own. -/
def isInline (k : Kind) : Bool := k.tag ≤ double.tag

/-- Whether the kind is one of the eight integer kinds. -/
def isInteger : Kind → Bool
  | integer _ => true
  | _ => false

/-- Whether the kind is one of the two floating-point kinds. -/
def isFloating : Kind → Bool
  | float | double => true
  | _ => false

theorem ofTag?_tag (k : Kind) : ofTag? k.tag = some k := by
  cases k with
  | integer i => cases i <;> rfl
  | _ => rfl

end Kind

end Parcel
