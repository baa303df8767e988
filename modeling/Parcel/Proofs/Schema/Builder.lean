import Parcel.Schema

/-!
# What a run of builder calls declares

A schema is built by one call after another, some of which declare a field and some of which put a
limit on what a field holds. The fields of the schema are the declarations in their order. A
declaration has the limits that later calls put on its name, unless an earlier declaration has that
name: then it has none, since limits go to the first field of a name. Limits on a name that has not
been declared go nowhere.

## Main definitions

* `Schema.Limit`, `Schema.Call` — what can be put on a field, and what can be called
* `Schema.build` — the schema that several calls build
* `Schema.Declaration`, `Schema.declarations` — the declarations among the calls, with their limits

## Main results

* `Schema.fields_build` — the fields of a schema are the declarations
-/

namespace Parcel

namespace Schema

/-- A limit on what a field holds. -/
inductive Limit where
  /-- Integers from `least` to `greatest`. -/
  | integers (least greatest : Int)
  /-- Floating-point numbers from `least` to `greatest`. -/
  | doubles (least greatest : UInt64)
  /-- Strings and bytes of a length from `least` to `greatest`. -/
  | length (least greatest : Nat)
  /-- Strings that match the pattern `source`. -/
  | pattern (source : String)
  /-- Strings from the list `allowed`. -/
  | oneOf (allowed : List String)
  /-- What passes `check`. -/
  | check (check : Check)

/-- A call that a schema is built by. -/
inductive Call where
  /-- Declare the field `name`. -/
  | declare (name : String) (kind : Kind) (isRequired : Bool)
  /-- Declare the field `name` with a container that has a schema of its own, given by the calls
  `inner`. -/
  | nest (name : String) (isRequired : Bool) (inner : List Call)
  /-- Put `limit` on the field `name`. -/
  | limit (name : String) (limit : Limit)

/-- The schema with a limit on a field. -/
def restrict (s : Schema) (name : String) : Limit → Schema
  | .integers least greatest => s.integers name least greatest
  | .doubles least greatest => s.doubles name least greatest
  | .length least greatest => s.length name least greatest
  | .pattern source => s.pattern name source
  | .oneOf allowed => s.oneOf name allowed
  | .check check => s.check name check

mutual

/-- The schema after a call. -/
def Call.apply : Call → Schema → Schema
  | .declare name kind isRequired, s =>
    if isRequired then s.require name kind else s.optional name kind
  | .nest name isRequired inner, s =>
    if isRequired then s.requireNested name (Call.applyAll inner .empty)
    else s.optionalNested name (Call.applyAll inner .empty)
  | .limit name l, s => s.restrict name l

/-- The schema after several calls. -/
def Call.applyAll : List Call → Schema → Schema
  | [], s => s
  | call :: rest, s => Call.applyAll rest (call.apply s)

end

/-- The schema that several calls build. -/
def build (calls : List Call) : Schema := Call.applyAll calls .empty

/-! ## Declarations -/

/-- A declaration with the limits that are put on it. -/
structure Declaration where
  /-- The name. -/
  name : String
  /-- The kind. -/
  kind : Kind
  /-- Whether the field has to be there. -/
  isRequired : Bool
  /-- The limits on what it holds, in the order in which they were put. -/
  limits : List Limit
  /-- The calls that build the schema of a container in it. -/
  inner : Option (List Call)

/-- The limits that calls put on a name. -/
def limitsOn (name : String) : List Call → List Limit
  | [] => []
  | .limit other l :: rest => if other = name then l :: limitsOn name rest else limitsOn name rest
  | _ :: rest => limitsOn name rest

/-- The declarations among calls that come after declarations of the given names. -/
def declarationsAfter (declared : List String) : List Call → List Declaration
  | [] => []
  | .declare name kind isRequired :: rest =>
    ⟨name, kind, isRequired, if name ∈ declared then [] else limitsOn name rest, none⟩ ::
      declarationsAfter (declared ++ [name]) rest
  | .nest name isRequired inner :: rest =>
    ⟨name, .container, isRequired, if name ∈ declared then [] else limitsOn name rest,
        some inner⟩ ::
      declarationsAfter (declared ++ [name]) rest
  | .limit _ _ :: rest => declarationsAfter declared rest

/-- The declarations among calls, each with the limits that later calls put on its name if it is
the first one of that name. -/
def declarations (calls : List Call) : List Declaration := declarationsAfter [] calls

end Schema

/-! ## Fields -/

open Schema (Limit Call Declaration)

/-- The limits with one of them replaced, or with one more check. -/
def Limits.put (l : Limits) : Limit → Limits
  | .integers least greatest => { l with integers := some (least, greatest) }
  | .doubles least greatest => { l with doubles := some (least, greatest) }
  | .length least greatest => { l with length := some (least, greatest) }
  | .pattern source => { l with pattern := some (.compile source) }
  | .oneOf allowed => { l with allowed := some allowed }
  | .check check => { l with checks := l.checks ++ [check] }

namespace Schema

/-- The field of a declaration. -/
def Declaration.rule (x : Declaration) : FieldRule :=
  ⟨x.name, x.kind, x.isRequired, x.limits.foldl Limits.put {}, x.inner.map build⟩

variable {name : String} {fields : List FieldRule} {f : Limits → Limits}

theorem restrict_eq (s : Schema) (name : String) (l : Limit) :
    s.restrict name l = s.constrain name (·.put l) := by
  cases l <;> rfl

theorem apply_declare (name : String) (kind : Kind) (isRequired : Bool) (s : Schema) :
    (Call.declare name kind isRequired).apply s = s.declare ⟨name, kind, isRequired, {}, none⟩ := by
  rw [Call.apply]
  cases isRequired <;> rfl

theorem apply_nest (name : String) (isRequired : Bool) (inner : List Call) (s : Schema) :
    (Call.nest name isRequired inner).apply s =
      s.declare ⟨name, .container, isRequired, {}, some (build inner)⟩ := by
  rw [Call.apply]
  cases isRequired <;> rfl

/-- A limit that `constrainFirst` puts on a field renames no field. -/
theorem map_name_constrainFirst (name : String) (f : Limits → Limits) (fields : List FieldRule) :
    (constrainFirst name f fields).map (·.name) = fields.map (·.name) := by
  induction fields with
  | nil => rfl
  | cons rule rest ih =>
    rw [constrainFirst]
    split
    · rfl
    · rw [List.map_cons, ih, List.map_cons]

/-- A limit goes to the first field of its name, whatever comes `later`. -/
theorem constrainFirst_append_of_mem (declared : name ∈ fields.map (·.name))
    (later : List FieldRule) :
    constrainFirst name f (fields ++ later) = constrainFirst name f fields ++ later := by
  induction fields with
  | nil => cases declared
  | cons rule rest ih =>
    rw [List.cons_append, constrainFirst, constrainFirst]
    by_cases here : rule.name = name
    · rw [if_pos here, if_pos here, List.cons_append]
    · rw [List.map_cons, List.mem_cons] at declared
      rw [if_neg here, if_neg here, ih (declared.resolve_left (Ne.symm here)), List.cons_append]

/-- A limit passes over fields of other names. -/
theorem constrainFirst_append_of_not_mem (absent : name ∉ fields.map (·.name))
    (later : List FieldRule) :
    constrainFirst name f (fields ++ later) = fields ++ constrainFirst name f later := by
  induction fields with
  | nil => rfl
  | cons rule rest ih =>
    rw [List.map_cons, List.mem_cons, not_or] at absent
    rw [List.cons_append, constrainFirst, if_neg (Ne.symm absent.1), ih absent.2,
      List.cons_append]

theorem constrainFirst_of_not_mem (absent : name ∉ fields.map (·.name)) :
    constrainFirst name f fields = fields := by
  have passed := constrainFirst_append_of_not_mem (f := f) absent []
  rwa [List.append_nil, constrainFirst, List.append_nil] at passed

/-- What calls do to fields that are declared already. -/
def restrictAll : List Call → List FieldRule → List FieldRule
  | [], fields => fields
  | .limit name l :: rest, fields => restrictAll rest (constrainFirst name (·.put l) fields)
  | _ :: rest, fields => restrictAll rest fields

theorem restrictAll_nil (calls : List Call) : restrictAll calls [] = [] := by
  induction calls with
  | nil => rfl
  | cons call rest ih => cases call <;> exact ih

/-- A new field gets the limits that the `calls` put on its name, if it is the first one of that
name. -/
theorem restrictAll_append (calls : List Call) (fields : List FieldRule) (kind : Kind)
    (isRequired : Bool) (limits : Limits) (nested : Option Schema) :
    restrictAll calls (fields ++ [⟨name, kind, isRequired, limits, nested⟩]) =
      restrictAll calls fields ++ [⟨name, kind, isRequired,
        (if name ∈ fields.map (·.name) then [] else limitsOn name calls).foldl Limits.put limits,
        nested⟩] := by
  induction calls generalizing fields limits with
  | nil =>
    have none : (if name ∈ fields.map (·.name) then [] else limitsOn name []) = [] := by
      split <;> rfl
    rw [none]
    rfl
  | cons call rest ih =>
    cases call with
    | declare other kind isRequired => exact ih fields limits
    | nest other isRequired inner => exact ih fields limits
    | limit other l =>
      rw [restrictAll, restrictAll]
      by_cases taken : other ∈ fields.map (·.name)
      · -- the limit is for a field that was there before
        rw [constrainFirst_append_of_mem taken, ih, map_name_constrainFirst]
        by_cases known : name ∈ fields.map (·.name)
        · rw [if_pos known, if_pos known]
        · have different : other ≠ name := by
            rintro rfl
            exact known taken
          rw [if_neg known, if_neg known, limitsOn, if_neg different]
      · rw [constrainFirst_append_of_not_mem taken, constrainFirst_of_not_mem taken,
          constrainFirst, constrainFirst]
        by_cases same : name = other
        · subst same
          rw [if_pos rfl, ih, if_neg taken, if_neg taken, limitsOn, if_pos rfl, List.foldl_cons]
        · rw [if_neg same, ih, limitsOn, if_neg (Ne.symm same)]

/-- The fields after a declaration and further calls. -/
theorem fields_declare (calls : List Call) (s : Schema) (name : String) (kind : Kind)
    (isRequired : Bool) (inner : Option (List Call)) :
    restrictAll calls (s.declare ⟨name, kind, isRequired, {}, inner.map build⟩).fields ++
        (declarationsAfter ((s.declare ⟨name, kind, isRequired, {}, inner.map build⟩).fields.map
          (·.name)) calls).map Declaration.rule =
      restrictAll calls s.fields ++
        (⟨name, kind, isRequired,
            if name ∈ s.fields.map (·.name) then [] else limitsOn name calls, inner⟩ ::
          declarationsAfter (s.fields.map (·.name) ++ [name]) calls).map Declaration.rule := by
  rw [declare]
  dsimp only
  rw [restrictAll_append, List.map_append, List.append_assoc]
  rfl

/-- The fields after several `calls` are those that were there before, with further limits, and
behind them the declarations. -/
theorem fields_applyAll (calls : List Call) (s : Schema) : (Call.applyAll calls s).fields =
    restrictAll calls s.fields ++
      (declarationsAfter (s.fields.map (·.name)) calls).map Declaration.rule := by
  induction calls generalizing s with
  | nil => simp [Call.applyAll, restrictAll, declarationsAfter]
  | cons call rest ih =>
    rw [Call.applyAll, ih]
    cases call with
    | declare name kind isRequired =>
      rw [apply_declare]
      exact fields_declare rest s name kind isRequired none
    | nest name isRequired inner =>
      rw [apply_nest]
      exact fields_declare rest s name .container isRequired (some inner)
    | limit name l =>
      rw [Call.apply, restrict_eq]
      change restrictAll rest (constrainFirst name _ s.fields) ++
        (declarationsAfter ((constrainFirst name _ s.fields).map _) rest).map _ = _
      rw [map_name_constrainFirst]
      rfl

/-- The fields of a schema are the `declarations` among the calls that have built it. -/
theorem fields_build (calls : List Call) :
    (build calls).fields = (declarations calls).map Declaration.rule := by
  have built := fields_applyAll calls .empty
  have fresh : Schema.empty.fields = [] := rfl
  rw [fresh, restrictAll_nil] at built
  exact built

end Schema

end Parcel
