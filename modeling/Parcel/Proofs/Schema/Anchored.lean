import Parcel.Proofs.Pattern.Framing
import Parcel.Proofs.Pattern.Matching
import Parcel.Proofs.Schema.Report

/-!
# Strings that match a pattern as a whole

A field with a pattern reports a string unless the pattern by itself is well formed and matches the
whole string. Since the pattern is put into its frame as text, this is so of the patterns that keep
to themselves there: a parenthesis that closes nothing in the pattern closes the group of the frame,
and what is behind it is no longer held to the ends of the text.

Where the calls of a schema have such patterns only, validation can be said without the frame at
all: `Schema.Satisfied` and `Schema.SatisfiedAlone` come to the same.

## Main definitions

* `Pattern.SelfContained` — the frame does not change what the pattern means
* `Pattern.Spans` — a pattern by itself matches a whole string
* `Schema.SatisfiedAlone` — satisfaction, with every pattern read by itself

## Main results

* `Pattern.SelfContained.of_readPiece?` — patterns that are well formed close no other group
* `Pattern.expression_compile` — what the frame of such a pattern says
* `FieldRule.filter_pattern_validate` — the violations of a pattern
* `FieldRule.reports_pattern_iff` — when a string is reported
* `Schema.validate_build_eq_nil_iff_satisfiedAlone` — when nothing is reported of a document
-/

namespace Parcel

/-! ## Patterns by themselves -/

namespace Pattern

/-- A pattern that means in its frame what it means by itself. -/
structure SelfContained (source : String) : Prop where
  /-- Each parenthesis that closes a group closes one of the pattern. -/
  own : ¬Strays initial source.toList
  /-- The pattern ends where its text does, and not in a comment that goes on. -/
  kept : (readPiece? source.toList).isSome → readPiece? (source.toList ++ closing) = none
  /-- The frame does not make the pattern too deep or too large. -/
  limits : ∀ p, readPiece? source.toList = some p → p.framed.isAllowed = p.isAllowed

variable {source : String}

instance (source : String) : Decidable (SelfContained source) :=
  decidable_of_iff (¬Strays initial source.toList ∧
      ((readPiece? source.toList).isSome → (readPiece? (source.toList ++ closing)).isNone) ∧
      (readPiece? source.toList).all fun p => p.framed.isAllowed = p.isAllowed) (by
    simp only [Option.isNone_iff_eq_none, Option.all_eq_true, decide_eq_true_eq]
    exact ⟨fun ⟨own, kept, limits⟩ => ⟨own, kept, limits⟩,
      fun contained => ⟨contained.own, contained.kept, contained.limits⟩⟩)

/-- In a pattern that is well formed, every parenthesis is its own. -/
theorem SelfContained.of_readPiece? {p : Piece} (read : readPiece? source.toList = some p)
    (kept : readPiece? (source.toList ++ closing) = none)
    (limits : p.framed.isAllowed = p.isAllowed) : SelfContained source where
  own strays := by
    rw [readPiece?_eq_none_of_strays strays] at read
    cases read
  kept _ := kept
  limits q found := by
    obtain rfl := Option.some.inj (read.symm.trans found)
    exact limits

theorem expression_framed (p : Piece) : p.framed.expression = p.expression.enclosed := rfl

/-- The frame of a `SelfContained` pattern says what the pattern does, between the two ends of the
text. -/
theorem expression_compile (contained : SelfContained source) :
    (compile source).expression = (read? source.toList).map Expression.enclosed := by
  change read? (frame source) = _
  rw [read?_eq, read?_eq, readPiece?_frame contained.own contained.kept]
  cases read : readPiece? source.toList with
  | none => rfl
  | some p =>
    simp only [Option.map_some, Option.bind_some, contained.limits p read, expression_framed]
    split <;> rfl

theorem isValid_compile (contained : SelfContained source) :
    (compile source).isValid = (read? source.toList).isSome := by
  rw [isValid, expression_compile contained, Option.isSome_map]

theorem accepts_compile (contained : SelfContained source) (text : String) :
    (compile source).accepts text = (read? source.toList).any (·.spans text.toList) := by
  rw [accepts, expression_compile contained, Option.any_map]
  simp only [Expression.occursIn_enclosed]

/-- The pattern `source`, read by itself, is well formed and matches the whole of `text`. -/
def Spans (source text : String) : Prop :=
  ∃ e, read? source.toList = some e ∧ e.spans text.toList

theorem accepts_compile_iff (contained : SelfContained source) (text : String) :
    (compile source).accepts text = true ↔ Spans source text := by
  rw [accepts_compile contained, Option.any_eq_true]
  rfl

end Pattern

/-! ## Violations of one constraint -/

/-- The violations of the constraint `c` are those of its aspects. -/
theorem Limits.filter_constraint_filterMap {l : Limits} {n : Named} (c : Constraint)
    (as : List Schema.Aspect) :
    (as.filterMap (l.breach? n)).filter (·.constraint = c) =
      (as.filter (·.constraint = c)).filterMap (l.breach? n) := by
  induction as with
  | nil => rfl
  | cons a rest ih =>
    cases broken : l.breach? n a with
    | none =>
      rw [List.filterMap_cons_none broken, ih, List.filter_cons]
      split
      · rw [List.filterMap_cons_none broken]
      · rfl
    | some b =>
      rw [List.filterMap_cons_some broken, List.filter_cons, List.filter_cons,
        Limits.constraint_breach? broken, ih]
      split
      · rw [List.filterMap_cons_some broken]
      · rfl

namespace FieldRule

open Pattern (SelfContained read?)

/-- A required string that has to match a pattern, as `Schema.require` and `Schema.pattern` declare
it. -/
def matching (source : String) : FieldRule :=
  ⟨"f", .string, true, { pattern := some (.compile source) }, none⟩

variable {rule : FieldRule} {n : Named} {source text : String}

/-- A string has its pattern against it at most once, and nothing inside it. -/
theorem filter_pattern_validate_eq (held : n.value = .string text) :
    (rule.validate (some n)).filter (·.constraint = .pattern) =
      (rule.limits.patternBreach? n.value).toList.map fun b => ⟨[], rule.name, b⟩ := by
  have inside : rule.insideViolations n = [] := by
    rw [insideViolations, held]
  have kind : (kindBreach? rule.kind n.kind).toList.filter (·.constraint = .pattern) = [] := by
    rw [kindBreach?]
    split <;> rfl
  have own : (rule.ownBreaches n).filter (·.constraint = .pattern) =
      (rule.limits.patternBreach? n.value).toList := by
    rw [ownBreaches, List.filter_append, kind, List.nil_append, Limits.breaches_eq_filterMap,
      Limits.filter_constraint_filterMap]
    change [Schema.Aspect.pattern].filterMap (rule.limits.breach? n) =
      (rule.limits.breach? n .pattern).toList
    cases broken : rule.limits.breach? n .pattern with
    | none => exact List.filterMap_cons_none broken
    | some b => exact List.filterMap_cons_some broken
  have nothing : nestedViolations rule.name [] = [] := rfl
  rw [validate_some, inside, nothing, List.append_nil, List.filter_map]
  exact congrArg _ own

/-- A pattern that is not well formed is reported as an `invalidPattern`; any other one is reported
as a `noMatch` where it does not match the whole string. -/
theorem filter_pattern_validate (contained : SelfContained source)
    (constrained : rule.limits.pattern = some (.compile source)) (held : n.value = .string text) :
    (rule.validate (some n)).filter (·.constraint = .pattern) =
      match read? source.toList with
      | none => [⟨[], rule.name, .invalidPattern source⟩]
      | some e => if e.spans text.toList then [] else [⟨[], rule.name, .noMatch source⟩] := by
  rw [filter_pattern_validate_eq held]
  simp only [Limits.patternBreach?, constrained, held, Pattern.isValid_compile contained,
    Pattern.accepts_compile contained]
  cases read? source.toList with
  | none => rfl
  | some e =>
    change ((if e.spans text.toList then none else some (Breach.noMatch source)).toList.map _) =
      if e.spans text.toList then [] else _
    split <;> rfl

/-- A string in a field with a pattern is reported for it exactly when it is not so that the pattern
by itself is well formed and `spans` the whole string: one that is not well formed is reported for
every string. -/
theorem reports_pattern_iff (contained : SelfContained source)
    (constrained : rule.limits.pattern = some (.compile source)) (held : n.value = .string text) :
    (∃ v ∈ rule.validate (some n), v.constraint = .pattern) ↔
      ∀ e, read? source.toList = some e → ¬e.spans text.toList := by
  have reported : (∃ v ∈ rule.validate (some n), v.constraint = .pattern) ↔
      (rule.validate (some n)).filter (·.constraint = .pattern) ≠ [] := by
    rw [Ne, List.filter_eq_nil_iff]
    simp
  rw [reported, filter_pattern_validate contained constrained held]
  cases read? source.toList with
  | none => simp
  | some e => simp

/-- Alternatives are held to both ends, and the frame does not close an open group. -/
theorem reports_pattern_iff_alternatives :
    (¬∃ v ∈ (matching "ab|c").validate (some ⟨"f", .string "c"⟩), v.constraint = .pattern) ∧
      (∃ v ∈ (matching "ab|c").validate (some ⟨"f", .string "abc"⟩), v.constraint = .pattern) ∧
      ∃ v ∈ (matching "(a").validate (some ⟨"f", .string "a"⟩), v.constraint = .pattern := by
  have alternatives : SelfContained "ab|c" := by decide +kernel
  have opened : SelfContained "(a" := by decide +kernel
  have matched : (read? "ab|c".toList).any (·.spans "c".toList) := by decide +kernel
  have unmatched : (read? "ab|c".toList).all (!·.spans "abc".toList) := by decide +kernel
  have refused : read? "(a".toList = none := by decide +kernel
  refine ⟨fun reported => ?_, (reports_pattern_iff alternatives rfl rfl).2 fun e read => ?_,
    (reports_pattern_iff opened rfl rfl).2 fun e read => ?_⟩
  · obtain ⟨e, read, spans⟩ := (Option.any_eq_true _ _).1 matched
    exact (reports_pattern_iff alternatives rfl rfl).1 reported e read spans
  · simpa using (Option.all_eq_true _ _).1 unmatched e read
  · exact absurd (refused.symm.trans read) nofun

/-- A pattern that is not well formed, since its parenthesis closes nothing. In the frame it closes
the group of the frame, and strings are let through. -/
theorem validate_strayParenthesis : read? "a)(?:b".toList = none ∧
    (matching "a)(?:b").validate (some ⟨"f", .string "ab"⟩) = [] := by
  refine ⟨by decide +kernel, ?_⟩
  rw [validate_some]
  decide +kernel

end FieldRule

/-! ## Documents -/

namespace Schema

/-- `Limit.Admits`, where a pattern is read by itself and not in its frame. -/
def Limit.AdmitsAlone (n : Named) : Limit → Prop
  | .pattern source => ∀ s, n.value = .string s → Pattern.Spans source s
  | l => l.Admits n

/-- A limit is no pattern that the frame gives another meaning. -/
def Limit.SelfContained : Limit → Prop
  | .pattern source => Pattern.SelfContained source
  | _ => True

theorem Limit.admits_iff_admitsAlone {l : Limit} (contained : l.SelfContained) (n : Named) :
    l.Admits n ↔ l.AdmitsAlone n := by
  cases l with
  | pattern source =>
    rw [Admits, AdmitsAlone]
    simp only [Pattern.accepts_compile_iff contained]
  | _ => rfl

/-- `Declaration.Met`, where the patterns in force are read by themselves. -/
def Declaration.MetAlone (x : Declaration) (d : Document) : Prop :=
  (d.get? x.name = none → x.isRequired = false) ∧ ∀ n, d.get? x.name = some n →
    n.kind = x.kind ∧ ∀ l ∈ inForce x.limits, l.AdmitsAlone n

theorem Declaration.met_iff_metAlone {x : Declaration}
    (contained : ∀ l ∈ inForce x.limits, l.SelfContained) (d : Document) :
    x.Met d ↔ x.MetAlone d := by
  have admits_iff (n : Named) :
      (∀ l ∈ inForce x.limits, l.Admits n) ↔ ∀ l ∈ inForce x.limits, l.AdmitsAlone n :=
    forall₂_congr fun l member => Limit.admits_iff_admitsAlone (contained l member) n
  simp only [Met, MetAlone, Fits, admits_iff]

/-- `Satisfied`, where all patterns are read by themselves, down to the innermost. -/
inductive SatisfiedAlone : List Call → Document → Prop where
  /-- All declarations are met, and those of what is nested. -/
  | intro {calls : List Call} {d : Document}
    (met : ∀ x ∈ declarations calls, x.MetAlone d)
    (nested : ∀ x ∈ declarations calls, ∀ inner n inside, x.inner = some inner →
      d.get? x.name = some n → n.value = .container inside → SatisfiedAlone inner inside) :
    SatisfiedAlone calls d

/-- The patterns in force of `calls` keep to themselves in their frames, and so do those that are
declared for what is nested. -/
inductive SelfContained : List Call → Prop where
  /-- The patterns of the declarations themselves, and those inside. -/
  | intro {calls : List Call}
    (own : ∀ x ∈ declarations calls, ∀ l ∈ inForce x.limits, l.SelfContained)
    (nested : ∀ x ∈ declarations calls, ∀ inner, x.inner = some inner → SelfContained inner) :
    SelfContained calls

/-- A document has no violations against calls with self-contained patterns exactly when it
satisfies them with each pattern read by itself, as `FieldRule.reports_pattern_iff` reads it. -/
theorem validate_build_eq_nil_iff_satisfiedAlone {calls : List Call}
    (contained : SelfContained calls) (d : Document) :
    (build calls).validate d = [] ↔ SatisfiedAlone calls d := by
  induction contained generalizing d with
  | @intro calls own _ ih =>
    have met_iff {x : Declaration} (member : x ∈ declarations calls) : x.Met d ↔ x.MetAlone d :=
      Declaration.met_iff_metAlone (own x member) d
    rw [validate_build_eq_nil_iff_forall]
    constructor
    · intro none
      refine .intro ?_ ?_
      · intro x member
        exact (met_iff member).1 (validate_rule_eq_nil_iff.1 (none x member)).1
      · intro x member inner n inside declared found value
        rw [← ih x member inner declared]
        exact (validate_rule_eq_nil_iff.1 (none x member)).2 inner n inside declared found value
    · rintro ⟨met, nested⟩ x member
      refine validate_rule_eq_nil_iff.2 ⟨(met_iff member).2 (met x member), ?_⟩
      intro inner n inside declared found value
      rw [ih x member inner declared]
      exact nested x member inner n inside declared found value

end Schema

end Parcel
