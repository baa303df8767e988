import Parcel.Container.Transfer
import Parcel.Schema

/-!
# Containers and schemas

Validating what a container holds, and taking over an input only to find that it does not conform.

## Main definitions

* `Container.validateAll`
* `Container.deserializeValidated`
* `Parcel.Rejection`
-/

namespace Parcel

/-- Why an input was not admitted. -/
inductive Rejection where
  /-- It could not be decoded, for the reason `e`. -/
  | undecodable (e : Error)
  /-- What it holds has violations. -/
  | invalid (violations : List Violation)

namespace Rejection

/-- The code of the error, or of the first violation. -/
def code : Rejection → Nat
  | undecodable e => e.code
  | invalid violations => (violations.head?.map fun v => v.constraint.code).getD 0

/-- The wording of a rejection. -/
def message (w : Wording) : Rejection → String
  | undecodable e => e.message w
  | invalid violations =>
    "schema validation failed with " ++ Decimal.text violations.length ++ " error(s)"

/-- The violations, of which an input that could not be decoded has none. -/
def violations : Rejection → List Violation
  | undecodable _ => []
  | invalid violations => violations

end Rejection

namespace Container

/-- The violations of a container. One whose values cannot be decoded counts as empty. -/
def validateAll (s : Schema) (c : Container) : List Violation × Container :=
  let (d, c) := c.snapshot
  (s.validate (d.toOption.getD ⟨c.header, []⟩), c)

/-- The first violation of a container. -/
def validate (s : Schema) (c : Container) : Option Violation × Container :=
  let (violations, c) := c.validateAll s
  (violations.head?, c)

/-- Takes over what `input` holds, and then validates it. -/
def deserializeValidated (s : Schema) (input : Bytes) (c : Container) :
    Except Rejection Unit × Container :=
  match c.deserialize input with
  | (.error e, c) => (.error (.undecodable e), c)
  | (.ok (), c) =>
    match c.validateAll s with
    | ([], c) => (.ok (), c)
    | (violations, c) => (.error (.invalid violations), c)

end Container

end Parcel
