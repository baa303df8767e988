import Parcel.Pattern
import Parcel.Schema.Violation
import Parcel.Unicode.Quoted
import Parcel.Value.Typed

/-!
# Schemas

A schema declares fields in order: their kinds, whether they have to be there, and further
constraints on what they hold. It is built from an empty schema by one declaration or constraint
after another. A constraint goes to the first field of its name, and is ignored when no field has
that name. A document is checked as a whole: every field contributes each constraint that its first
value of that name breaks.

## Main definitions

* `Parcel.FieldRule`, `Parcel.Schema`
* `Schema.require`, `Schema.optional`, … — declarations and constraints
* `Schema.validate` — the violations of a document
-/

namespace Parcel

/-- A check of a value: the reason for which it fails, if it does. -/
abbrev Check := Named → Option String

/-- The constraints on what a field holds, other than its kind. -/
structure Limits where
  /-- The least and the greatest integer. -/
  integers : Option (Int × Int) := none
  /-- The least and the greatest floating-point number. -/
  doubles : Option (UInt64 × UInt64) := none
  /-- The least and the greatest length of strings and bytes, in bytes. -/
  length : Option (Nat × Nat) := none
  /-- What strings have to match. -/
  pattern : Option Pattern := none
  /-- The strings that are allowed. -/
  allowed : Option (List String) := none
  /-- Further checks in order. -/
  checks : List Check := []

mutual

/-- What is declared of a field. -/
structure FieldRule where
  /-- The name. -/
  name : String
  /-- The kind. -/
  kind : Kind
  /-- Whether the field has to be there. -/
  isRequired : Bool
  /-- The constraints on what it holds. -/
  limits : Limits
  /-- The schema of a container in it. -/
  nested : Option Schema

/-- Fields in the order of their declaration. -/
structure Schema where
  /-- The fields. -/
  fields : List FieldRule

end

/-! ## Limits -/

namespace Limits

/-- The integer of a value, if it is outside the range. -/
def integerBreach? (l : Limits) (v : Value) : Option Breach :=
  match l.integers, v with
  | some (least, greatest), .integer n =>
    if n.number < least ∨ greatest < n.number then
      some (.integerOutside n.number least greatest)
    else none
  | _, _ => none

/-- Whether the double `bits` is no number or outside of bounds. -/
def isOutside (least greatest bits : UInt64) : Bool :=
  Binary.double.less bits.toNat least.toNat || Binary.double.less greatest.toNat bits.toNat ||
    Binary.double.isNaN bits.toNat

/-- The floating-point number of a value, if it is outside the range. -/
def doubleBreach? (l : Limits) (v : Value) : Option Breach :=
  match l.doubles, v.asDouble? with
  | some (least, greatest), some bits =>
    if isOutside least greatest bits then some (.doubleOutside bits least greatest) else none
  | _, _ => none

/-- The length of a string or of bytes, in bytes. -/
def length? : Value → Option Nat
  | .string s => some s.utf8ByteSize
  | .bytes s => some s.length
  | _ => none

/-- The length of a value, if it is out of bounds. -/
def lengthBreach? (l : Limits) (v : Value) : Option Breach :=
  match l.length, length? v with
  | some (least, greatest), some n =>
    if n < least ∨ greatest < n then some (.lengthOutside n least greatest) else none
  | _, _ => none

/-- The pattern, if a string does not match it. -/
def patternBreach? (l : Limits) (v : Value) : Option Breach :=
  match l.pattern, v with
  | some p, .string s =>
    if !p.isValid then some (.invalidPattern p.source)
    else if p.accepts s then none
    else some (.noMatch p.source)
  | _, _ => none

/-- A string, if it is not allowed. -/
def allowedBreach? (l : Limits) (v : Value) : Option Breach :=
  match l.allowed, v with
  | some allowed, .string s => if allowed.contains s then none else some (.notAllowed s)
  | _, _ => none

/-- The reason of the first check that fails. -/
def checkBreach? (l : Limits) (n : Named) : Option Breach :=
  (l.checks.findSome? fun check => check n).map .checkFailed

/-- All constraints that a value breaks. -/
def breaches (l : Limits) (n : Named) : List Breach :=
  [l.integerBreach? n.value, l.doubleBreach? n.value, l.lengthBreach? n.value,
    l.patternBreach? n.value, l.allowedBreach? n.value, l.checkBreach? n].filterMap id

end Limits

/-! ## Validation -/

/-- The breach of a field of the kind `actual` where another one is `expected`. -/
def kindBreach? (expected actual : Kind) : Option Breach :=
  if actual = expected then none else some (.wrongKind expected actual)

/-- The violations that `inner` ones make of the field around them, `name`. -/
def nestedViolations (name : String) (inner : List Violation) : List Violation :=
  if inner.isEmpty then []
  else ⟨[], name, .nestedFailed inner.length⟩ :: inner.map (·.under name)

mutual

/-- The violations of a document, field by field. -/
def Schema.validate : Schema → Document → List Violation
  | ⟨fields⟩, d => FieldRule.validateAll fields d

/-- The violations of some fields. -/
def FieldRule.validateAll : List FieldRule → Document → List Violation
  | [], _ => []
  | rule :: rest, d => rule.validate (d.get? rule.name) ++ FieldRule.validateAll rest d

/-- The violations of one field, given its value if it is there. -/
def FieldRule.validate : FieldRule → Option Named → List Violation
  | ⟨name, _, isRequired, _, _⟩, none => if isRequired then [⟨[], name, .missing⟩] else []
  | ⟨name, kind, _, limits, nested⟩, some n =>
    let own := (kindBreach? kind n.kind).toList ++ limits.breaches n
    own.map (fun b => ⟨[], name, b⟩) ++
      match n.value with
      | .container d => nestedViolations name (FieldRule.validateNested nested d)
      | _ => []

/-- The violations of a nested document. -/
def FieldRule.validateNested : Option Schema → Document → List Violation
  | none, _ => []
  | some schema, d => schema.validate d

end

namespace Schema

/-! ## Declarations -/

/-- No declarations. -/
def empty : Schema := ⟨[]⟩

instance : Inhabited Schema := ⟨empty⟩

/-- One more field. -/
def declare (s : Schema) (rule : FieldRule) : Schema := ⟨s.fields ++ [rule]⟩

/-- A field that has to be there. -/
def require (s : Schema) (name : String) (kind : Kind) : Schema :=
  s.declare ⟨name, kind, true, {}, none⟩

/-- A field that need not be there. -/
def optional (s : Schema) (name : String) (kind : Kind) : Schema :=
  s.declare ⟨name, kind, false, {}, none⟩

/-- A container with a schema of its own that has to be there. -/
def requireNested (s : Schema) (name : String) (inner : Schema) : Schema :=
  s.declare ⟨name, .container, true, {}, some inner⟩

/-- A container with a schema of its own that need not be there. -/
def optionalNested (s : Schema) (name : String) (inner : Schema) : Schema :=
  s.declare ⟨name, .container, false, {}, some inner⟩

/-! ## Constraints -/

/-- Changes the limits of the first field of the given `name` by `f`. -/
def constrainFirst (name : String) (f : Limits → Limits) : List FieldRule → List FieldRule
  | [] => []
  | rule :: rest =>
    if rule.name = name then { rule with limits := f rule.limits } :: rest
    else rule :: constrainFirst name f rest

/-- Changes the limits of the first field of a name. -/
def constrain (s : Schema) (name : String) (f : Limits → Limits) : Schema :=
  ⟨constrainFirst name f s.fields⟩

/-- Integers between two others. -/
def integers (s : Schema) (name : String) (least greatest : Int) : Schema :=
  s.constrain name fun l => { l with integers := some (least, greatest) }

/-- Floating-point numbers between two others. -/
def doubles (s : Schema) (name : String) (least greatest : UInt64) : Schema :=
  s.constrain name fun l => { l with doubles := some (least, greatest) }

/-- Strings and bytes of a length from `least` to `greatest`. -/
def length (s : Schema) (name : String) (least greatest : Nat) : Schema :=
  s.constrain name fun l => { l with length := some (least, greatest) }

/-- Strings that match the pattern `source`. -/
def pattern (s : Schema) (name source : String) : Schema :=
  s.constrain name fun l => { l with pattern := some (.compile source) }

/-- Strings from a list. -/
def oneOf (s : Schema) (name : String) (allowed : List String) : Schema :=
  s.constrain name fun l => { l with allowed := some allowed }

/-- One more check. -/
def check (s : Schema) (name : String) (check : Check) : Schema :=
  s.constrain name fun l => { l with checks := l.checks ++ [check] }

/-! ## What is declared -/

/-- Number of fields. -/
def size (s : Schema) : Nat := s.fields.length

/-- Whether a field is declared. -/
def declares (name : String) (s : Schema) : Bool := s.fields.any (·.name == name)

/-- Whether a field is declared as one that has to be there. -/
def requires (name : String) (s : Schema) : Bool :=
  s.fields.any fun rule => rule.name == name && rule.isRequired

/-- The diagnostic text of a field. -/
def displayField (rule : FieldRule) : String :=
  "(" ++ ", ".intercalate [Unicode.Quoted.text rule.name, rule.kind.title,
    if rule.isRequired then "true" else "false"] ++ ")"

/-- The diagnostic text of a schema. -/
def display (s : Schema) : String := "[" ++ ", ".intercalate (s.fields.map displayField) ++ "]"

end Schema

end Parcel
