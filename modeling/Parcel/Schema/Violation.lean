import Parcel.Error
import Parcel.Number.Layout

/-!
# Violations

What a document can have against a schema, with the place where it was found.

## Main definitions

* `Parcel.Constraint` — the kinds of constraint, with their codes
* `Parcel.Breach` — how a constraint is broken
* `Parcel.Violation` — a breach and the field where it is
-/

namespace Parcel

/-- The kinds of constraint that a field can break. -/
inductive Constraint where
  /-- The field has to be there. -/
  | presence
  /-- Its kind. -/
  | kind
  /-- Its range. -/
  | range
  /-- Its length. -/
  | length
  /-- Its pattern. -/
  | pattern
  /-- The values it may have. -/
  | allowed
  /-- A check of its own. -/
  | custom
  /-- The schema of what is nested in it. -/
  | nested
  deriving DecidableEq, Inhabited

namespace Constraint

/-- The code of a constraint. -/
def code : Constraint → Nat
  | presence => 310
  | kind => 311
  | range => 312
  | length => 313
  | pattern => 314
  | allowed => 315
  | custom => 316
  | nested => 317

/-- What it means that a constraint is broken. -/
def description : Constraint → String
  | presence => "Required field is missing"
  | kind => "Field type mismatch"
  | range => "Value is out of range"
  | length => "Invalid length"
  | pattern => "Pattern mismatch"
  | allowed => "Value not in allowed list"
  | custom => "Custom validation failed"
  | nested => "Nested schema validation failed"

end Constraint

/-- How a field breaks a constraint. -/
inductive Breach where
  /-- It is missing. -/
  | missing
  /-- It has the kind `actual` in place of `expected`. -/
  | wrongKind (expected actual : Kind)
  /-- It is the integer `n`, outside the range from `least` to `greatest`. -/
  | integerOutside (n least greatest : Int)
  /-- It is the floating-point number `bits`, outside the range from `least` to `greatest`. -/
  | doubleOutside (bits least greatest : UInt64)
  /-- It has the length `n`, which is too short or too long. -/
  | lengthOutside (n least greatest : Nat)
  /-- It does not match the pattern `source`. -/
  | noMatch (source : String)
  /-- The pattern `source` is not well formed. -/
  | invalidPattern (source : String)
  /-- It has a `value` that is not allowed. -/
  | notAllowed (value : String)
  /-- A check of its own failed, for the given `reason`. -/
  | checkFailed (reason : String)
  /-- What is nested in it has violations, `count` of them. -/
  | nestedFailed (count : Nat)
  deriving DecidableEq, Inhabited

namespace Breach

/-- The constraint that is broken. -/
def constraint : Breach → Constraint
  | missing => .presence
  | wrongKind .. => .kind
  | integerOutside .. | doubleOutside .. => .range
  | lengthOutside .. => .length
  | noMatch _ | invalidPattern _ => .pattern
  | notAllowed _ => .allowed
  | checkFailed _ => .custom
  | nestedFailed _ => .nested

/-- The text of a double. -/
def doubleText (bits : UInt64) : String :=
  String.ofList (Number.display Binary.double bits.toNat)

/-- The bounds `least` and `greatest` between square brackets. -/
def boundsText (least greatest : String) : String := "[" ++ least ++ ", " ++ greatest ++ "]"

/-- What is said of a field behind its name, where refused patterns are worded by `w`. -/
def statement (w : Wording) : Breach → String
  | missing => " is missing"
  | wrongKind expected actual =>
    " type mismatch: expected " ++ expected.name ++ ", got " ++ actual.name
  | integerOutside n least greatest =>
    " value " ++ String.ofList (Decimal.ofInt n) ++ " is out of range " ++
      boundsText (String.ofList (Decimal.ofInt least)) (String.ofList (Decimal.ofInt greatest))
  | doubleOutside bits least greatest =>
    " value " ++ doubleText bits ++ " is out of range " ++
      boundsText (doubleText least) (doubleText greatest)
  | lengthOutside n least greatest =>
    " length " ++ Decimal.text n ++ " is outside bounds " ++
      boundsText (Decimal.text least) (Decimal.text greatest)
  | noMatch source => " does not match pattern '" ++ source ++ "'"
  | invalidPattern source => " pattern '" ++ source ++ "' is invalid: " ++ w (.pattern source)
  | notAllowed value => " value '" ++ value ++ "' is not in allowed values"
  | checkFailed reason => " custom validation failed: " ++ reason
  | nestedFailed count =>
    " nested validation failed with " ++ Decimal.text count ++ " error(s)"

/-- The message about the field `name`. -/
def message (w : Wording) (name : String) (b : Breach) : String :=
  (match b with
    | missing => "Required field '"
    | _ => "Field '") ++ name ++ "'" ++ b.statement w

end Breach

/-- A breach, with the name of the field and those of the containers around it, outermost first. -/
structure Violation where
  /-- The names of the containers around the field. -/
  parents : List String
  /-- The name of the field. -/
  name : String
  /-- What is wrong. -/
  breach : Breach
  deriving DecidableEq, Inhabited

namespace Violation

/-- The names down to the field, with dots between them. -/
def path (v : Violation) : String := ".".intercalate (v.parents ++ [v.name])

/-- The constraint that is broken. -/
def constraint (v : Violation) : Constraint := v.breach.constraint

/-- The message. -/
def message (w : Wording) (v : Violation) : String := v.breach.message w v.name

/-- The same violation, seen from outside the container `parent`. -/
def under (parent : String) (v : Violation) : Violation :=
  { v with parents := parent :: v.parents }

end Violation

end Parcel
