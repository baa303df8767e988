import Parcel.Number.Binary
import Parcel.Value

/-!
# Structural equality

Two values are equal when they have the same kind and equal payloads. Floating-point payloads are
compared as numbers, so a value that holds no number anywhere inside differs from itself.
-/

namespace Parcel

mutual

/-- Structural equality of values. -/
def Value.equal : Value → Value → Bool
  | .null, .null => true
  | .bool a, .bool b => a == b
  | .integer a, .integer b => a == b
  | .float a, .float b => Binary.single.equal a.toNat b.toNat
  | .double a, .double b => Binary.double.equal a.toNat b.toNat
  | .string a, .string b => a == b
  | .bytes a, .bytes b => a == b
  | .container a, .container b => a.equal b
  | .array a, .array b => Value.equalLists a b
  | _, _ => false

/-- Structural equality of lists of values. -/
def Value.equalLists : List Value → List Value → Bool
  | [], [] => true
  | a :: as, b :: bs => a.equal b && Value.equalLists as bs
  | _, _ => false

/-- Structural equality of named values. -/
def Named.equal : Named → Named → Bool
  | ⟨m, a⟩, ⟨n, b⟩ => m == n && a.equal b

/-- Structural equality of lists of named values. -/
def Named.equalLists : List Named → List Named → Bool
  | [], [] => true
  | a :: as, b :: bs => a.equal b && Named.equalLists as bs
  | _, _ => false

/-- Structural equality of documents. -/
def Document.equal : Document → Document → Bool
  | ⟨g, a⟩, ⟨h, b⟩ => g == h && Named.equalLists a b

end

end Parcel
