import Parcel.Proofs.Number.Widening
import Parcel.Proofs.Schema.Builder

/-!
# Validation decides satisfaction

What it means that a document satisfies a schema is said of the calls that have built the schema,
without its limits or any violation: every declaration has to be met by the first value of its
name, and what is nested there has to satisfy the calls of its own. Of several limits of one aspect
on the same declaration only the last is in force, while checks accumulate. A document has no
violations against a schema exactly when it satisfies it.

## Main definitions

* `Schema.Limit.Admits` — a limit lets a value pass
* `Schema.inForce` — the limits that no later one replaces
* `Schema.Declaration.Met`, `Schema.Satisfied` — satisfaction of a declaration and of all of them

## Main results

* `Limits.breach?_foldl` — what is checked of a field is what is in force
* `Schema.validate_build_eq_nil_iff` — no violations exactly when the calls are satisfied
-/

namespace Parcel

open Binary (single double)

namespace Schema

/-! ## Satisfaction -/

/-- The aspects of a value that limits are put on. -/
inductive Aspect where
  /-- The number of an integer. -/
  | integer
  /-- The number of a floating-point number. -/
  | double
  /-- The length. -/
  | length
  /-- What a string looks like. -/
  | pattern
  /-- Which string it is. -/
  | choice
  /-- Whatever a check looks at. -/
  | check
  deriving DecidableEq

/-- The aspect that a limit is on. -/
def Limit.aspect : Limit → Aspect
  | .integers _ _ => .integer
  | .doubles _ _ => .double
  | .length _ _ => .length
  | .pattern _ => .pattern
  | .oneOf _ => .choice
  | .check _ => .check

/-- A limit replaces what was put on the aspect `a` before. A check replaces nothing. -/
def Limit.Replaces (l : Limit) (a : Aspect) : Prop := l.aspect = a ∧ a ≠ .check

instance (l : Limit) (a : Aspect) : Decidable (l.Replaces a) :=
  inferInstanceAs (Decidable (_ ∧ _))

/-- The limits that no later one replaces. -/
def inForce : List Limit → List Limit
  | [] => []
  | l :: later => if ∃ m ∈ later, m.Replaces l.aspect then inForce later else l :: inForce later

/-- A number lies between the bounds `least` and `greatest`. A bound that denotes no number bounds
nothing. -/
def LiesBetween (least greatest bits : UInt64) : Prop :=
  (double.isNaN least.toNat = false → double.place least.toNat ≤ double.place bits.toNat) ∧
    (double.isNaN greatest.toNat = false → double.place bits.toNat ≤ double.place greatest.toNat)

/-- A limit lets a value pass. Values of kinds that it does not speak of pass. -/
def Limit.Admits (n : Named) : Limit → Prop
  | .integers least greatest =>
    ∀ i, n.value = .integer i → least ≤ i.number ∧ i.number ≤ greatest
  | .doubles least greatest =>
    (∀ bits, n.value = .float bits →
      single.isNaN bits.toNat = false ∧ LiesBetween least greatest (Binary.widen bits)) ∧
    ∀ bits, n.value = .double bits →
      double.isNaN bits.toNat = false ∧ LiesBetween least greatest bits
  | .length least greatest =>
    (∀ s, n.value = .string s → least ≤ s.utf8ByteSize ∧ s.utf8ByteSize ≤ greatest) ∧
    ∀ s, n.value = .bytes s → least ≤ s.length ∧ s.length ≤ greatest
  | .pattern source => ∀ s, n.value = .string s → (Pattern.compile source).accepts s = true
  | .oneOf allowed => ∀ s, n.value = .string s → s ∈ allowed
  | .check reason? => reason? n = none

/-- The value `n` is of the declared kind, and every limit in force lets it pass. -/
def Declaration.Fits (x : Declaration) (n : Named) : Prop :=
  n.kind = x.kind ∧ ∀ l ∈ inForce x.limits, l.Admits n

/-- A declaration is met by the first value of its name, or by its absence if the field need not
be there. -/
def Declaration.Met (x : Declaration) (d : Document) : Prop :=
  (d.get? x.name = none → x.isRequired = false) ∧ ∀ n, d.get? x.name = some n → x.Fits n

/-- A document satisfies the schema that calls build: it meets every declaration, and what is
nested in it satisfies the schema declared for it. -/
inductive Satisfied : List Call → Document → Prop where
  /-- All declarations are met, down to the innermost. -/
  | intro {calls : List Call} {d : Document}
    (met : ∀ x ∈ declarations calls, x.Met d)
    (nested : ∀ x ∈ declarations calls, ∀ inner n inside, x.inner = some inner →
      d.get? x.name = some n → n.value = .container inside → Satisfied inner inside) :
    Satisfied calls d

/-- A limit is `inForce` beside those behind it unless one of them replaces it. -/
theorem forall_mem_inForce_cons {p : Limit → Prop} {l : Limit} {later : List Limit} :
    (∀ m ∈ inForce (l :: later), p m) ↔
      ((¬ ∃ m ∈ later, m.Replaces l.aspect) → p l) ∧ ∀ m ∈ inForce later, p m := by
  rw [inForce]
  split
  next replaced => simp only [replaced, not_true_eq_false, false_implies, true_and]
  next kept => simp only [kept, not_false_eq_true, true_implies, List.forall_mem_cons]

end Schema

/-! ## Limits -/

open Schema (Aspect LiesBetween)

namespace Limits

variable {l : Limits} {n : Named} {a : Aspect}

/-- A number `isOutside` of bounds when it is no number or lies beyond one of them. -/
theorem isOutside_eq_false_iff {least greatest bits : UInt64} :
    isOutside least greatest bits = false ↔
      double.isNaN bits.toNat = false ∧ LiesBetween least greatest bits := by
  rw [isOutside, Bool.or_eq_false_iff, Bool.or_eq_false_iff]
  cases number : double.isNaN bits.toNat with
  | true => simp
  | false =>
    -- a comparison with a bound that denotes no number is false, so it rules nothing out
    simp [Binary.Format.less, LiesBetween, number]

theorem integerBreach?_eq_none_iff {least greatest : Int}
    (stated : l.integers = some (least, greatest)) :
    l.integerBreach? n.value = none ↔ (Schema.Limit.integers least greatest).Admits n := by
  rw [Schema.Limit.Admits]
  cases n.value <;> simp [integerBreach?, stated]

theorem doubleBreach?_eq_none_iff {least greatest : UInt64}
    (stated : l.doubles = some (least, greatest)) :
    l.doubleBreach? n.value = none ↔ (Schema.Limit.doubles least greatest).Admits n := by
  rw [Schema.Limit.Admits]
  cases n.value with
  | float bits =>
    -- a single is compared as a double, which denotes a number exactly when the single does
    simp [doubleBreach?, stated, Value.asDouble?, isOutside_eq_false_iff, Binary.isNaN_widen]
  | double bits => simp [doubleBreach?, stated, Value.asDouble?, isOutside_eq_false_iff]
  | _ => simp [doubleBreach?, stated, Value.asDouble?]

theorem lengthBreach?_eq_none_iff {least greatest : Nat}
    (stated : l.length = some (least, greatest)) :
    l.lengthBreach? n.value = none ↔ (Schema.Limit.length least greatest).Admits n := by
  rw [Schema.Limit.Admits]
  cases n.value <;> simp [lengthBreach?, stated, length?]

/-- A pattern that is not well formed lets no string pass. -/
theorem patternBreach?_eq_none_iff {source : String}
    (stated : l.pattern = some (.compile source)) :
    l.patternBreach? n.value = none ↔ (Schema.Limit.pattern source).Admits n := by
  rw [Schema.Limit.Admits]
  cases n.value with
  | string s =>
    cases read : (Pattern.compile source).expression <;>
      simp [patternBreach?, stated, Pattern.isValid, Pattern.accepts, read]
  | _ => simp [patternBreach?, stated]

theorem allowedBreach?_eq_none_iff {allowed : List String} (stated : l.allowed = some allowed) :
    l.allowedBreach? n.value = none ↔ (Schema.Limit.oneOf allowed).Admits n := by
  rw [Schema.Limit.Admits]
  cases n.value <;> simp [allowedBreach?, stated]

/-- What the value `n` breaks of one aspect. -/
def breach? (l : Limits) (n : Named) : Aspect → Option Breach
  | .integer => l.integerBreach? n.value
  | .double => l.doubleBreach? n.value
  | .length => l.lengthBreach? n.value
  | .pattern => l.patternBreach? n.value
  | .choice => l.allowedBreach? n.value
  | .check => l.checkBreach? n

theorem breaches_eq_nil_iff : l.breaches n = [] ↔ ∀ a, l.breach? n a = none := by
  simp only [breaches, List.filterMap_eq_nil_iff, List.forall_mem_cons, id_eq]
  constructor
  · rintro ⟨integer, double, length, pattern, choice, check, -⟩ a
    cases a <;> assumption
  · intro none
    exact ⟨none .integer, none .double, none .length, none .pattern, none .choice, none .check,
      nofun⟩

/-- Without limits nothing is broken. -/
theorem breach?_empty (n : Named) (a : Aspect) : ({} : Limits).breach? n a = none := by
  cases a <;> rfl

/-- A limit leaves the aspects other than its own alone. -/
theorem breach?_put_of_ne {m : Schema.Limit} (other : m.aspect ≠ a) :
    (l.put m).breach? n a = l.breach? n a := by
  cases m <;> cases a <;> first | rfl | exact absurd rfl other

/-- After a limit nothing is broken of its aspect when it `Admits` the value and, since checks
accumulate, no earlier check fails. -/
theorem breach?_put_aspect {m : Schema.Limit} :
    (l.put m).breach? n m.aspect = none ↔
      m.Admits n ∧ (m.aspect = .check → l.breach? n .check = none) := by
  cases m with
  | integers least greatest =>
    exact (integerBreach?_eq_none_iff rfl).trans (and_iff_left nofun).symm
  | doubles least greatest => exact (doubleBreach?_eq_none_iff rfl).trans (and_iff_left nofun).symm
  | length least greatest => exact (lengthBreach?_eq_none_iff rfl).trans (and_iff_left nofun).symm
  | pattern source => exact (patternBreach?_eq_none_iff rfl).trans (and_iff_left nofun).symm
  | oneOf allowed => exact (allowedBreach?_eq_none_iff rfl).trans (and_iff_left nofun).symm
  | check check =>
    simp [Schema.Limit.aspect, Schema.Limit.Admits, breach?, checkBreach?, put, and_comm]

/-- One more limit speaks for its own aspect; the aspects that it does not replace stay as they
were. -/
theorem breach?_put {m : Schema.Limit} :
    (l.put m).breach? n a = none ↔
      (m.aspect = a → m.Admits n) ∧ (¬ m.Replaces a → l.breach? n a = none) := by
  by_cases same : m.aspect = a
  · subst same
    have replaces : ¬ m.Replaces m.aspect ↔ m.aspect = .check := by simp [Schema.Limit.Replaces]
    rw [breach?_put_aspect, replaces]
    refine and_congr (by simp) (imp_congr_right fun checks => ?_)
    rw [checks]
  · have replaces : ¬ m.Replaces a := fun ⟨replaced, _⟩ => same replaced
    rw [breach?_put_of_ne same]
    simp [same, replaces]

/-- Nothing is broken of the aspect `a` exactly when the limits `inForce` on it let the value pass,
and nothing was broken before if none of them replaces what was there. -/
theorem breach?_foldl (limits : List Schema.Limit) (l : Limits) :
    (limits.foldl put l).breach? n a = none ↔
      (∀ m ∈ Schema.inForce limits, m.aspect = a → m.Admits n) ∧
        ((¬ ∃ m ∈ limits, m.Replaces a) → l.breach? n a = none) := by
  induction limits generalizing l with
  | nil => simp [Schema.inForce]
  | cons m later ih =>
    rw [List.foldl_cons, ih, breach?_put, Schema.forall_mem_inForce_cons,
      List.exists_mem_cons_iff, not_or]
    -- what replaces `m` later on is what replaces the aspect, where `m` is on that aspect
    constructor
    · rintro ⟨admitted, before⟩
      refine ⟨⟨?_, admitted⟩, ?_⟩
      · rintro kept rfl
        exact (before kept).1 rfl
      · rintro ⟨own, kept⟩
        exact (before kept).2 own
    · rintro ⟨⟨own, admitted⟩, before⟩
      refine ⟨admitted, fun kept => ⟨?_, ?_⟩⟩
      · rintro rfl
        exact own kept rfl
      · intro untouched
        exact before ⟨untouched, kept⟩

/-- A value breaks nothing of what is put on a field when all limits `inForce` let it pass. -/
theorem breaches_foldl_eq_nil_iff (limits : List Schema.Limit) :
    (limits.foldl put {}).breaches n = [] ↔ ∀ m ∈ Schema.inForce limits, m.Admits n := by
  simp only [breaches_eq_nil_iff, breach?_foldl, breach?_empty, implies_true, and_true]
  constructor
  · intro admitted m member
    exact admitted m.aspect m member rfl
  · intro admitted a m member _
    exact admitted m member

end Limits

/-! ## Violations -/

theorem kindBreach?_eq_none_iff {expected actual : Kind} :
    kindBreach? expected actual = none ↔ actual = expected := by
  rw [kindBreach?]
  split <;> simp_all

theorem nestedViolations_eq_nil_iff {name : String} {inner : List Violation} :
    nestedViolations name inner = [] ↔ inner = [] := by
  rw [nestedViolations]
  cases inner <;> simp

namespace Schema

variable {x : Declaration} {n : Named} {d : Document}

/-- The violations of a value that is there are its own, which are none where it `Fits`, and those
of what is nested in it. -/
theorem validate_rule_some_eq_nil_iff : x.rule.validate (some n) = [] ↔
    x.Fits n ∧ ∀ inner inside, x.inner = some inner → n.value = .container inside →
      (build inner).validate inside = [] := by
  have own : ((kindBreach? x.kind n.kind).toList ++
      (x.limits.foldl Limits.put {}).breaches n) = [] ↔ x.Fits n := by
    rw [List.append_eq_nil_iff, Option.toList_eq_nil_iff, kindBreach?_eq_none_iff,
      Limits.breaches_foldl_eq_nil_iff, Declaration.Fits]
  rw [Declaration.rule, FieldRule.validate, List.append_eq_nil_iff, List.map_eq_nil_iff, own]
  refine and_congr_right fun _ => ?_
  -- only a container is looked into, and only if there is a schema for it
  cases value : n.value with
  | container inside =>
    dsimp only
    rw [nestedViolations_eq_nil_iff]
    cases declared : x.inner <;> simp [FieldRule.validateNested]
  | _ => simp

/-- A field has no violations when its declaration is `Met` and what is nested has none. -/
theorem validate_rule_eq_nil_iff : x.rule.validate (d.get? x.name) = [] ↔
    x.Met d ∧ ∀ inner n inside, x.inner = some inner → d.get? x.name = some n →
      n.value = .container inside → (build inner).validate inside = [] := by
  rw [Declaration.Met]
  cases found : d.get? x.name with
  | none => simp [Declaration.rule, FieldRule.validate]
  | some n =>
    rw [validate_rule_some_eq_nil_iff]
    grind

theorem validateAll_eq_flatMap (fields : List FieldRule) (d : Document) :
    FieldRule.validateAll fields d =
      fields.flatMap fun rule => rule.validate (d.get? rule.name) := by
  induction fields with
  | nil => rw [FieldRule.validateAll, List.flatMap_nil]
  | cons rule rest ih => rw [FieldRule.validateAll, List.flatMap_cons, ih]

/-- The violations of a document are those of its fields in the order of declaration. -/
theorem validate_eq_flatMap (s : Schema) (d : Document) :
    s.validate d = s.fields.flatMap fun rule => rule.validate (d.get? rule.name) := by
  cases s
  rw [validate, validateAll_eq_flatMap]

theorem validate_build_eq_nil_iff_forall {calls : List Call} :
    (build calls).validate d = [] ↔
      ∀ x ∈ declarations calls, x.rule.validate (d.get? x.name) = [] := by
  rw [validate_eq_flatMap, fields_build, List.flatMap_eq_nil_iff, List.forall_mem_map]
  rfl

/-- The calls for what is nested in a field stand inside the `calls` that declare it. -/
theorem sizeOf_inner_lt {declared : List String} {calls inner : List Call}
    (member : x ∈ declarationsAfter declared calls) (nested : x.inner = some inner) :
    sizeOf inner < sizeOf calls := by
  induction calls generalizing declared with
  | nil => cases member
  | cons call rest ih =>
    have tail : sizeOf rest < sizeOf (call :: rest) := by
      rw [List.cons.sizeOf_spec]
      omega
    cases call with
    | declare name kind isRequired =>
      rcases List.mem_cons.1 member with rfl | later
      · cases nested
      · exact (ih later).trans tail
    | nest name isRequired calls =>
      rcases List.mem_cons.1 member with rfl | later
      · cases nested
        rw [List.cons.sizeOf_spec, Call.nest.sizeOf_spec]
        omega
      · exact (ih later).trans tail
    | limit name l => exact (ih member).trans tail

/-- A document has no violations against the schema that `calls` build exactly when they are
`Satisfied`. -/
theorem validate_build_eq_nil_iff (calls : List Call) (d : Document) :
    (build calls).validate d = [] ↔ Satisfied calls d := by
  -- nested documents are held against calls that stand inside these
  induction size : sizeOf calls using Nat.strong_induction_on generalizing calls d with
  | _ bound ih =>
    subst size
    have nested_iff {x : Declaration} (member : x ∈ declarations calls) {inner : List Call}
        (nested : x.inner = some inner) (inside : Document) :
        (build inner).validate inside = [] ↔ Satisfied inner inside :=
      ih _ (sizeOf_inner_lt member nested) inner inside rfl
    rw [validate_build_eq_nil_iff_forall]
    constructor
    · intro none
      refine .intro (fun x member => (validate_rule_eq_nil_iff.1 (none x member)).1) ?_
      intro x member inner n inside nested found value
      rw [← nested_iff member nested]
      exact (validate_rule_eq_nil_iff.1 (none x member)).2 inner n inside nested found value
    · rintro ⟨met, nested⟩ x member
      refine validate_rule_eq_nil_iff.2 ⟨met x member, ?_⟩
      intro inner n inside declared found value
      rw [nested_iff member declared]
      exact nested x member inner n inside declared found value

/-- The limit goes to the first field of the name only, and both fields look at the same value. -/
example : ((build [.declare "age" (.integer .int) true, .limit "age" (.integers 0 150),
      .declare "age" (.integer .long) false]).validate
    ⟨{}, [⟨"age", .integer ⟨.int, 300, by decide⟩⟩]⟩).map Violation.constraint =
      [.range, .kind] := by
  decide

end Schema

end Parcel
