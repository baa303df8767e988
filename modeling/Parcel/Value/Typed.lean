import Parcel.Number.Binary
import Parcel.Value

/-!
# Typed reading

A caller may ask for a value as one of fifteen types. An integer type takes every integer kind
whose number fits. The double type takes both floating-point kinds. Every other type takes its own
kind only, and the universal type takes anything.

## Main definitions

* `Parcel.Target` — the types a value can be read as
* `Target.accepts?` — the value as read, or `none`
-/

namespace Parcel

/-- The integer types a value can be read as. -/
inductive IntegerTarget where
  /-- 16 bits, signed. -/
  | int16
  /-- 16 bits, unsigned. -/
  | nat16
  /-- 32 bits, signed. -/
  | int32
  /-- 32 bits, unsigned. -/
  | nat32
  /-- 64 bits, signed. -/
  | int64
  /-- 64 bits, unsigned. -/
  | nat64
  /-- A size: 64 bits, unsigned. -/
  | size
  deriving DecidableEq, Inhabited

namespace IntegerTarget

/-- All integer types. -/
def all : List IntegerTarget := [int16, nat16, int32, nat32, int64, nat64, size]

/-- The width of an integer type. -/
def width : IntegerTarget → Width
  | int16 => ⟨true, 16⟩
  | nat16 => ⟨false, 16⟩
  | int32 => ⟨true, 32⟩
  | nat32 => ⟨false, 32⟩
  | int64 => ⟨true, 64⟩
  | nat64 | size => ⟨false, 64⟩

/-- The name of an integer type in messages. -/
def label : IntegerTarget → String
  | int16 => "i16"
  | nat16 => "u16"
  | int32 => "i32"
  | nat32 => "u32"
  | int64 => "i64"
  | nat64 => "u64"
  | size => "usize"

end IntegerTarget

/-- The types a value can be read as. -/
inductive Target where
  /-- An integer type. -/
  | integer (t : IntegerTarget)
  /-- A 64-bit floating-point number. -/
  | double
  /-- A 32-bit floating-point number. -/
  | float
  /-- A truth value. -/
  | bool
  /-- Text. -/
  | string
  /-- Bytes. -/
  | bytes
  /-- A nested container. -/
  | document
  /-- A list of values. -/
  | items
  /-- Any value. -/
  | any
  deriving DecidableEq, Inhabited

namespace Target

/-- All types. -/
def all : List Target :=
  IntegerTarget.all.map integer ++ [double, float, bool, string, bytes, document, items, any]

/-- The name of a type in messages. -/
def label : Target → String
  | integer t => t.label
  | double => "f64"
  | float => "f32"
  | bool => "bool"
  | string => "String"
  | bytes => "Vec<u8>"
  | document => "Document"
  | items => "Vec<Value>"
  | any => "Value"

/-- The type of a name. -/
def ofLabel? (label : String) : Option Target := all.find? (·.label == label)

end Target

/-- A value as read: an integer without its kind, a floating-point number as a double, or the
value itself. -/
inductive Reading where
  /-- A number that fits the integer type asked for. -/
  | number (n : Int)
  /-- A double. -/
  | double (bits : UInt64)
  /-- The value itself. -/
  | value (v : Value)

namespace Value

/-- The number of an integer value. -/
def asInteger? : Value → Option Int
  | integer n => some n.number
  | _ => none

/-- The floating-point number of a value as a double. -/
def asDouble? : Value → Option UInt64
  | float bits => some (Binary.widen bits)
  | double bits => some bits
  | _ => none

/-- The number of an integer value, when the type `t` holds it. -/
def asIntegerOf? (t : IntegerTarget) (v : Value) : Option Int :=
  v.asInteger?.filter fun n => t.width.Holds n

/-- The value as the type asked for. -/
def readAs? (t : Target) (v : Value) : Option Reading :=
  match t with
  | .integer t => (v.asIntegerOf? t).map .number
  | .double => v.asDouble?.map .double
  | .float => if v.kind = .float then some (.value v) else none
  | .bool => if v.kind = .bool then some (.value v) else none
  | .string => if v.kind = .string then some (.value v) else none
  | .bytes => if v.kind = .bytes then some (.value v) else none
  | .document => if v.kind = .container then some (.value v) else none
  | .items => if v.kind = .array then some (.value v) else none
  | .any => some (.value v)

end Value

end Parcel
