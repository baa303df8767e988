import Parcel.Proofs.Schema.Satisfaction

/-!
# What is reported of a document

A violation is reported by its path, the constraint that is broken and a message. The report on a
document is made of the reports on its fields in the order of their declaration. What a field breaks
itself comes in the order of the constraints, at most once for each; the findings inside a container
come last, behind a summary that counts them, with the name of the container in front of their
paths. Reports on nested documents have the same form, so that a path spells the chain of declared
names which leads from the root to the field that is at fault.

## Main definitions

* `Parcel.Finding` — what is reported of a violation
* `Schema.findings`, `FieldRule.findings`, `FieldRule.inside` — the reports on a document, on a
  field, and on what is nested in a field
* `Schema.Reaches` — a chain of declared names leads to a field

## Main results

* `Limits.constraint_breaches_sublist` — constraints are broken in order
* `Schema.mem_validate_iff` — where violations come from
* `Schema.findings_structure` — the form of a report
-/

namespace Parcel

open Schema (Aspect)

/-! ## Findings -/

/-- What is reported of a violation. -/
structure Finding where
  /-- The names down to the field, with dots between them. -/
  path : String
  /-- The constraint that is broken. -/
  constraint : Constraint
  /-- What is said about it. -/
  message : String
  deriving DecidableEq

/-- The same finding with the name `parent` and a dot in front of its path. -/
def Finding.under (parent : String) (f : Finding) : Finding :=
  { f with path := parent ++ "." ++ f.path }

namespace Violation

/-- A violation as it is reported, where others have their refusals worded by `w`. -/
def finding (w : Wording) (v : Violation) : Finding := ⟨v.path, v.constraint, v.message w⟩

theorem path_under (parent : String) (v : Violation) :
    (v.under parent).path = parent ++ "." ++ v.path :=
  String.intercalate_cons_of_ne_nil (List.append_ne_nil_of_right_ne_nil _ nofun)

theorem finding_under (w : Wording) (parent : String) (v : Violation) :
    (v.under parent).finding w = (v.finding w).under parent := by
  rw [finding, Finding.under, path_under]
  rfl

/-- A path spells the names down to the field, and is just the name outside of containers. -/
theorem path_of_direct (name : String) (b : Breach) : (Violation.mk [] name b).path = name :=
  String.intercalate_singleton

end Violation

/-! ## The order of constraints -/

/-- The constraint that limits on an aspect are reported under. -/
def Schema.Aspect.constraint : Aspect → Constraint
  | .integer | .double => .range
  | .length => .length
  | .pattern => .pattern
  | .choice => .allowed
  | .check => .custom

namespace Limits

variable {l : Limits} {n : Named}

theorem constraint_breach? {a : Aspect} {b : Breach} (broken : l.breach? n a = some b) :
    b.constraint = a.constraint := by
  cases a with
  | check =>
    obtain ⟨reason, -, rfl⟩ := Option.map_eq_some_iff.1 broken
    rfl
  | _ =>
    simp only [breach?, integerBreach?, doubleBreach?, lengthBreach?, patternBreach?,
      allowedBreach?] at broken
    grind [Breach.constraint, Aspect.constraint]

/-- Each aspect is broken at most once, and aspects are looked at in turn. -/
theorem constraint_filterMap_sublist (as : List Aspect) :
    ((as.filterMap (l.breach? n)).map Breach.constraint).Sublist (as.map Aspect.constraint) := by
  induction as with
  | nil => exact .slnil
  | cons a rest ih =>
    cases broken : l.breach? n a with
    | none =>
      rw [List.filterMap_cons_none broken, List.map_cons]
      exact ih.cons _
    | some b =>
      rw [List.filterMap_cons_some broken, List.map_cons, List.map_cons,
        constraint_breach? broken]
      exact ih.cons_cons _

theorem breaches_eq_filterMap : l.breaches n =
    [.integer, .double, .length, .pattern, .choice, .check].filterMap (l.breach? n) :=
  rfl

/-- A value is an integer or a floating-point number, but not both. -/
theorem integer_or_double_holds : l.breach? n .integer = none ∨ l.breach? n .double = none := by
  cases value : n.value with
  | integer i =>
    right
    simp [breach?, doubleBreach?, value, Value.asDouble?]
  | _ =>
    left
    simp [breach?, integerBreach?, value]

theorem constraint_breaches_sublist :
    ((l.breaches n).map Breach.constraint).Sublist
      [.range, .length, .pattern, .allowed, .custom] := by
  rw [breaches_eq_filterMap]
  -- the two aspects that share a constraint are not broken together
  rcases integer_or_double_holds (l := l) (n := n) with holds | holds
  · rw [List.filterMap_cons_none holds]
    exact constraint_filterMap_sublist [.double, .length, .pattern, .choice, .check]
  · have skipped : [.integer, .double, .length, .pattern, .choice, .check].filterMap (l.breach? n) =
        [.integer, .length, .pattern, .choice, .check].filterMap (l.breach? n) := by
      simp only [List.filterMap_cons, holds]
    rw [skipped]
    exact constraint_filterMap_sublist [.integer, .length, .pattern, .choice, .check]

end Limits

/-! ## Reports on fields -/

/-- The report on a document. -/
def Schema.findings (w : Wording) (s : Schema) (d : Document) : List Finding :=
  (s.validate d).map (Violation.finding w)

namespace FieldRule

/-- The report on a field, given its value if it was `found`. -/
def findings (w : Wording) (rule : FieldRule) (found : Option Named) : List Finding :=
  (rule.validate found).map (Violation.finding w)

/-- The report on what is nested in the value `n` of a field, against the schema declared for it. -/
def inside (w : Wording) (rule : FieldRule) (n : Named) : List Finding :=
  match rule.nested, n.value with
  | some inner, .container d => inner.findings w d
  | _, _ => []

/-- What the value `n` breaks itself, without what is nested in it. -/
def ownBreaches (rule : FieldRule) (n : Named) : List Breach :=
  (kindBreach? rule.kind n.kind).toList ++ rule.limits.breaches n

/-- The violations of what is nested in a field. -/
def insideViolations (rule : FieldRule) (n : Named) : List Violation :=
  match n.value with
  | .container d => validateNested rule.nested d
  | _ => []

variable {w : Wording} {rule : FieldRule} {n : Named} {v : Violation}

theorem mem_insideViolations_iff : v ∈ rule.insideViolations n ↔
    ∃ inner d, rule.nested = some inner ∧ n.value = .container d ∧ v ∈ inner.validate d := by
  rw [insideViolations]
  cases n.value with
  | container d =>
    cases rule.nested with
    | none => simp [validateNested]
    | some inner => simp [validateNested]
  | _ => simp

theorem map_finding_insideViolations :
    (rule.insideViolations n).map (Violation.finding w) = rule.inside w n := by
  rw [insideViolations, inside]
  cases n.value with
  | container d =>
    cases rule.nested with
    | none => rfl
    | some inner => rfl
  | _ => cases rule.nested <;> rfl

theorem validate_none : rule.validate none =
    if rule.isRequired then [⟨[], rule.name, .missing⟩] else [] := by
  cases rule
  rw [validate]

/-- A field that is there reports its `ownBreaches`, and then what is nested in it. -/
theorem validate_some : rule.validate (some n) =
    (rule.ownBreaches n).map (fun b => ⟨[], rule.name, b⟩) ++
      nestedViolations rule.name (rule.insideViolations n) := by
  cases rule
  rw [validate, insideViolations]
  cases n.value <;> rfl

theorem constraint_ownBreaches_sublist : ((rule.ownBreaches n).map Breach.constraint).Sublist
    [.kind, .range, .length, .pattern, .allowed, .custom] := by
  have limits := Limits.constraint_breaches_sublist (l := rule.limits) (n := n)
  rw [ownBreaches, kindBreach?]
  split
  · exact limits.cons _
  · exact limits.cons_cons _

theorem message_missing (w : Wording) (name : String) :
    Breach.missing.message w name = "Required field '" ++ name ++ "' is missing" := by
  have message : Breach.missing.message w name =
      "Required field '" ++ name ++ "'" ++ " is missing" := rfl
  have joined : "' is missing" = "'" ++ " is missing" := rfl
  simp only [message, joined, String.append_assoc]

theorem message_nestedFailed (w : Wording) (name : String) (count : Nat) :
    (Breach.nestedFailed count).message w name = "Field '" ++ name ++
      "' nested validation failed with " ++ Decimal.text count ++ " error(s)" := by
  have message : (Breach.nestedFailed count).message w name = "Field '" ++ name ++ "'" ++
      (" nested validation failed with " ++ Decimal.text count ++ " error(s)") := rfl
  have joined : "' nested validation failed with " = "'" ++ " nested validation failed with " :=
    rfl
  simp only [message, joined, String.append_assoc]

/-- The findings inside a field stand behind their summary. -/
theorem map_finding_nestedViolations (w : Wording) (name : String) (inner : List Violation) :
    (nestedViolations name inner).map (Violation.finding w) =
      if inner.isEmpty then []
      else ⟨name, .nested, "Field '" ++ name ++ "' nested validation failed with " ++
        Decimal.text inner.length ++ " error(s)"⟩ ::
          (inner.map (Violation.finding w)).map (Finding.under name) := by
  rw [nestedViolations]
  split
  · rfl
  · have summary := message_nestedFailed w name inner.length
    simp only [List.map_cons, List.map_map, Violation.finding, Violation.path_of_direct,
      Violation.constraint, Violation.message, summary, Breach.constraint, List.cons.injEq,
      true_and]
    exact List.map_congr_left fun v _ => Violation.finding_under w name v

theorem findings_none : rule.findings w none = if rule.isRequired then
    [⟨rule.name, .presence, "Required field '" ++ rule.name ++ "' is missing"⟩] else [] := by
  rw [findings, validate_none]
  split
  · simp only [List.map_cons, List.map_nil, Violation.finding, Violation.path_of_direct,
      Violation.constraint, Violation.message, message_missing, Breach.constraint]
  · rfl

/-- What a field reports when it is there: `own` findings, and those inside behind a summary. -/
theorem findings_some : ∃ own : List Finding,
    (∀ f ∈ own, f.path = rule.name) ∧
      (own.map Finding.constraint).Sublist
        [.kind, .range, .length, .pattern, .allowed, .custom] ∧
      rule.findings w (some n) = own ++
        if (rule.inside w n).isEmpty then []
        else ⟨rule.name, .nested, "Field '" ++ rule.name ++ "' nested validation failed with " ++
          Decimal.text (rule.inside w n).length ++ " error(s)"⟩ ::
            (rule.inside w n).map (Finding.under rule.name) := by
  refine ⟨(rule.ownBreaches n).map fun b => Violation.finding w ⟨[], rule.name, b⟩, ?_, ?_, ?_⟩
  · rw [List.forall_mem_map]
    intro b _
    exact Violation.path_of_direct rule.name b
  · rw [List.map_map]
    exact constraint_ownBreaches_sublist
  · rw [findings, validate_some, List.map_append, List.map_map, map_finding_nestedViolations,
      ← map_finding_insideViolations, List.isEmpty_map, List.length_map]
    rfl

/-- A violation of a field is one of its own, or one of `insideViolations`. -/
theorem mem_validate_cases {found : Option Named} (mem : v ∈ rule.validate found) :
    (v.parents = [] ∧ v.name = rule.name) ∨
      ∃ n w, found = some n ∧ w ∈ rule.insideViolations n ∧ v = w.under rule.name := by
  cases found with
  | none =>
    rw [validate_none] at mem
    split at mem
    · rw [List.mem_singleton.1 mem]
      exact .inl ⟨rfl, rfl⟩
    · cases mem
  | some n =>
    rw [validate_some, List.mem_append, nestedViolations] at mem
    rcases mem with own | nested
    · obtain ⟨b, -, rfl⟩ := List.mem_map.1 own
      exact .inl ⟨rfl, rfl⟩
    · split at nested
      · cases nested
      · rcases List.mem_cons.1 nested with rfl | inner
        · -- the summary is the field's own as well
          exact .inl ⟨rfl, rfl⟩
        · obtain ⟨w, mem, rfl⟩ := List.mem_map.1 inner
          exact .inr ⟨n, w, rfl, mem, rfl⟩

/-- A finding with the bare name of the `rule` as its path is one of the field's own. -/
theorem exists_own_of_path {found : Option Named} {f : Finding} (mem : f ∈ rule.findings w found)
    (direct : f.path = rule.name) :
    ∃ b, ⟨[], rule.name, b⟩ ∈ rule.validate found ∧ f = Violation.finding w ⟨[], rule.name, b⟩ := by
  obtain ⟨v, violated, rfl⟩ := List.mem_map.1 mem
  rcases mem_validate_cases violated with ⟨parents, named⟩ | ⟨n, w, -, -, rfl⟩
  · obtain ⟨_, _, b⟩ := v
    cases parents
    cases named
    exact ⟨b, violated, rfl⟩
  · -- A path with a name and a dot in front of it is longer than the name.
    have path : rule.name ++ "." ++ w.path = rule.name := (w.path_under rule.name).symm.trans direct
    have length := congrArg String.length path
    simp only [String.length_append] at length
    have dot : ".".length = 1 := rfl
    omega

/-- Everything that is found inside a field is reported of the field. -/
theorem under_mem_validate (mem : v ∈ rule.insideViolations n) :
    v.under rule.name ∈ rule.validate (some n) := by
  have some_inside : (rule.insideViolations n).isEmpty = false :=
    List.isEmpty_eq_false_iff_exists_mem.2 ⟨v, mem⟩
  rw [validate_some, nestedViolations, some_inside]
  exact List.mem_append_right _ (List.mem_cons_of_mem _ (List.mem_map_of_mem mem))

end FieldRule

/-! ## Reports on documents -/

namespace Schema

variable {s : Schema} {d : Document}

/-- Declared fields lead to a field: `around` has the names of the containers on the way, and
`found` is the value of the field in the innermost one, if it is there. -/
inductive Reaches : Schema → Document → List String → FieldRule → Option Named → Prop where
  /-- A declared field is reached from the document itself. -/
  | field {s : Schema} {d : Document} {rule : FieldRule} (declared : rule ∈ s.fields) :
    Reaches s d [] rule (d.get? rule.name)
  /-- A field inside a container is reached by way of the field that holds the container. -/
  | inside {s inner : Schema} {d nested : Document} {rule last : FieldRule} {n : Named}
    {around : List String} {found : Option Named} (declared : rule ∈ s.fields)
    (present : d.get? rule.name = some n) (schema : rule.nested = some inner)
    (value : n.value = .container nested) (further : Reaches inner nested around last found) :
    Reaches s d (rule.name :: around) last found

/-- A chain of fields leads to every violation of `validate`, and ends at the field that it is a
violation of. -/
theorem exists_reaches_of_mem {v : Violation} (mem : v ∈ s.validate d) :
    ∃ rule found, s.Reaches d v.parents rule found ∧ v.name = rule.name ∧
      ⟨[], rule.name, v.breach⟩ ∈ rule.validate found := by
  obtain ⟨parents, name, b⟩ := v
  -- each container on the way has put its name in front
  induction parents generalizing s d with
  | nil =>
    rw [validate_eq_flatMap] at mem
    obtain ⟨rule, declared, mem⟩ := List.mem_flatMap.1 mem
    rcases FieldRule.mem_validate_cases mem with ⟨-, named⟩ | ⟨n, w, -, -, eq⟩
    · cases named
      exact ⟨rule, _, .field declared, rfl, mem⟩
    · cases eq
  | cons parent rest ih =>
    rw [validate_eq_flatMap] at mem
    obtain ⟨rule, declared, mem⟩ := List.mem_flatMap.1 mem
    rcases FieldRule.mem_validate_cases mem with ⟨direct, -⟩ | ⟨n, w, present, inside, eq⟩
    · cases direct
    · cases eq
      obtain ⟨inner, nested, schema, value, violated⟩ :=
        FieldRule.mem_insideViolations_iff.1 inside
      obtain ⟨last, found, further, named, own⟩ := ih violated
      exact ⟨last, found, .inside declared present schema value further, named, own⟩

/-- What a field breaks at the end of a chain that `Reaches` it is a violation of the whole
document. -/
theorem Reaches.mem_validate {around : List String} {rule : FieldRule} {found : Option Named}
    {b : Breach} (reaches : s.Reaches d around rule found)
    (own : ⟨[], rule.name, b⟩ ∈ rule.validate found) : ⟨around, rule.name, b⟩ ∈ s.validate d := by
  induction reaches with
  | field declared =>
    rw [validate_eq_flatMap]
    exact List.mem_flatMap.2 ⟨_, declared, own⟩
  | inside declared present schema value _ ih =>
    have nested := FieldRule.under_mem_validate
      (FieldRule.mem_insideViolations_iff.2 ⟨_, _, schema, value, ih own⟩)
    rw [validate_eq_flatMap]
    exact List.mem_flatMap.2 ⟨_, declared, present ▸ nested⟩

theorem mem_validate_iff {v : Violation} : v ∈ s.validate d ↔
    ∃ rule found, s.Reaches d v.parents rule found ∧ v.name = rule.name ∧
      ⟨[], rule.name, v.breach⟩ ∈ rule.validate found := by
  refine ⟨exists_reaches_of_mem, ?_⟩
  rintro ⟨rule, found, reaches, named, own⟩
  obtain ⟨parents, name, b⟩ := v
  cases named
  exact reaches.mem_validate own

/-- A report is the reports on the fields one after another. A required field that is absent is
reported as missing and nothing else, an optional one is not reported. A field that is there reports
what it breaks itself, under its own name and in the order of the constraints, each at most once;
when there are findings `inside`, a summary with their number follows, and then these findings as
they are, but with the name and a dot in front of their paths. So the path of every finding is a
chain of declared names that `Reaches` the field, which reports the same of itself. -/
theorem findings_structure (w : Wording) (s : Schema) (d : Document) :
    s.findings w d = s.fields.flatMap (fun rule => rule.findings w (d.get? rule.name)) ∧
      (∀ rule : FieldRule,
        (rule.findings w none = if rule.isRequired then
          [⟨rule.name, .presence, "Required field '" ++ rule.name ++ "' is missing"⟩] else []) ∧
        ∀ n : Named, ∃ own : List Finding,
          (∀ f ∈ own, f.path = rule.name) ∧
            (own.map Finding.constraint).Sublist
              [.kind, .range, .length, .pattern, .allowed, .custom] ∧
            rule.findings w (some n) = own ++
              if (rule.inside w n).isEmpty then []
              else ⟨rule.name, .nested, "Field '" ++ rule.name ++
                "' nested validation failed with " ++ Decimal.text (rule.inside w n).length ++
                  " error(s)"⟩ :: (rule.inside w n).map (Finding.under rule.name)) ∧
      ∀ f, f ∈ s.findings w d ↔ ∃ around rule found own, s.Reaches d around rule found ∧
        own ∈ rule.findings w found ∧ own.path = rule.name ∧
          f = { own with path := ".".intercalate (around ++ [rule.name]) } := by
  refine ⟨?_, fun rule => ⟨FieldRule.findings_none, fun n => FieldRule.findings_some⟩, ?_⟩
  · rw [findings, validate_eq_flatMap, List.map_flatMap]
    rfl
  · intro f
    constructor
    · -- beside its own finding a violation carries the nested fields it was found under
      intro mem
      obtain ⟨⟨parents, name, b⟩, violated, rfl⟩ := List.mem_map.1 mem
      obtain ⟨rule, found, reaches, named, own⟩ := mem_validate_iff.1 violated
      cases named
      exact ⟨parents, rule, found, _, reaches, List.mem_map_of_mem own,
        Violation.path_of_direct rule.name b, rfl⟩
    · rintro ⟨around, rule, found, own, reaches, mem, direct, rfl⟩
      obtain ⟨b, violated, rfl⟩ := FieldRule.exists_own_of_path mem direct
      have whole : ⟨around, rule.name, b⟩ ∈ s.validate d :=
        mem_validate_iff.2 ⟨rule, found, reaches, rfl, violated⟩
      exact List.mem_map_of_mem whole

/-- A container two levels down lacks a field: each container on the way reports how much is
inside, and names may have dots of their own. -/
example : ((build [.nest "a" true [.nest "b.c" true [.declare "d" .string true]]]).findings
    (fun _ => "") ⟨{}, [⟨"a", .container ⟨{}, [⟨"b.c", .container ⟨{}, []⟩⟩]⟩⟩]⟩).map
      (fun f => (f.path, f.constraint)) =
        [("a", .nested), ("a.b.c", .nested), ("a.b.c.d", .presence)] := by
  decide

end Schema

end Parcel
