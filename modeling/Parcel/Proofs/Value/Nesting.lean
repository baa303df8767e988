import Parcel.Value

/-!
# How deep values are nested

The values of a document sit at depth zero, and every container and array around a value adds one.
The level of a nested document counts only the documents it is nested in, so arrays add nothing.

## Main definitions

* `Value.Reaches`, `Document.Reaches` — some value sits at a depth
* `Value.Within` — every value sits above a depth
* `Value.HoldsAt`, `Document.HoldsAt` — which value sits at a depth
* `Value.Every` — something holds of a value and of every value inside it
* `Value.ContainersWithin` — every container sits above a depth
* `Value.NestsAt`, `Document.NestsAt` — which document is nested at a level
* `Value.NestsWithin` — no document is nested below a level
* `Value.HasPart`, `Document.HasPart` — a document is nested in a value, or in a document
* `Document.UsesName` — a name is used in a document or in one that is nested in it

## Main results

* `Value.induct` — what holds of a value when it holds of those inside it holds of every value
* `Value.every_container_iff`, `Value.every_array_iff`, `Value.every_iff_of_flat` — what has to hold
  of what is inside
* `Value.within_container_iff`, `Value.within_array_iff`, `Value.containersWithin_container_iff`,
  `Value.containersWithin_array_iff` — one level less for what is inside
* `Document.hasPart_iff`, `Value.hasPart_array_iff` — the parts of what is inside
* `Value.nestsWithin_container_iff`, `Value.nestsWithin_array_iff` — an array takes no level
* `Value.Within.level_le` — how the depth of values limits the levels of documents
-/

namespace Parcel

/-- Some value sits `depth` levels inside a value, which sits inside itself at no depth. -/
inductive Value.Reaches : Value → Nat → Prop where
  /-- The value itself. -/
  | here (v : Value) : v.Reaches 0
  /-- One level more than inside the value `n` of the nested container. -/
  | container {d : Document} {n : Named} {depth : Nat} (mem : n ∈ d.values)
      (inside : n.value.Reaches depth) : (Value.container d).Reaches (depth + 1)
  /-- One level more than inside the item `v`. -/
  | array {items : List Value} {v : Value} {depth : Nat} (mem : v ∈ items)
      (inside : v.Reaches depth) : (Value.array items).Reaches (depth + 1)

/-- Some value of a document sits at `depth`; the values of the document itself sit at depth zero.
-/
def Document.Reaches (d : Document) (depth : Nat) : Prop := ∃ n ∈ d.values, n.value.Reaches depth

namespace Value

/-- No value sits `levels` or more levels inside a value. -/
def Within (v : Value) (levels : Nat) : Prop := ∀ depth, v.Reaches depth → depth < levels

variable {v : Value} {levels : Nat}

theorem not_within_zero : ¬v.Within 0 := fun within => absurd (within 0 (.here v)) (by decide)

theorem within_container_iff {d : Document} :
    (container d).Within (levels + 1) ↔ ∀ n ∈ d.values, n.value.Within levels := by
  constructor
  · intro within n mem depth inside
    exact Nat.lt_of_succ_lt_succ (within _ (.container mem inside))
  · rintro within _ (_ | ⟨mem, inside⟩)
    · exact Nat.succ_pos _
    · exact Nat.succ_lt_succ (within _ mem _ inside)

theorem within_array_iff {items : List Value} :
    (array items).Within (levels + 1) ↔ ∀ v ∈ items, v.Within levels := by
  constructor
  · intro within v mem depth inside
    exact Nat.lt_of_succ_lt_succ (within _ (.array mem inside))
  · rintro within _ (_ | _ | ⟨mem, inside⟩)
    · exact Nat.succ_pos _
    · exact Nat.succ_lt_succ (within _ mem _ inside)

/-- Only containers and arrays have anything inside. -/
theorem within_succ_of_flat (flat : v.kind ≠ .container ∧ v.kind ≠ .array) :
    v.Within (levels + 1) := by
  rintro _ (_ | _ | _)
  · exact Nat.succ_pos _
  · exact absurd rfl flat.1
  · exact absurd rfl flat.2

end Value

theorem Document.within_iff {d : Document} {levels : Nat} :
    (∀ depth, d.Reaches depth → depth < levels) ↔ ∀ n ∈ d.values, n.value.Within levels := by
  constructor
  · intro within n mem depth inside
    exact within depth ⟨n, mem, inside⟩
  · rintro within depth ⟨n, mem, inside⟩
    exact within n mem depth inside

/-- A value sits `depth` levels inside another, which sits inside itself at no depth. -/
inductive Value.HoldsAt : Value → Nat → Value → Prop where
  /-- The value itself. -/
  | here (v : Value) : v.HoldsAt 0 v
  /-- One level more than inside the value `n` of the nested container. -/
  | container {d : Document} {n : Named} {depth : Nat} {v : Value} (mem : n ∈ d.values)
      (inside : n.value.HoldsAt depth v) : (Value.container d).HoldsAt (depth + 1) v
  /-- One level more than inside `item`. -/
  | array {items : List Value} {item : Value} {depth : Nat} {v : Value} (mem : item ∈ items)
      (inside : item.HoldsAt depth v) : (Value.array items).HoldsAt (depth + 1) v

/-- The value `v` sits at `depth` in a document; the values of the document itself sit at depth
zero. -/
def Document.HoldsAt (d : Document) (depth : Nat) (v : Value) : Prop :=
  ∃ n ∈ d.values, n.value.HoldsAt depth v

/-! ## Values inside values -/

namespace Value

section Induction

variable {P : Value → Prop}
  (ofContainer : ∀ d : Document, (∀ n ∈ d.values, P n.value) → P (.container d))
  (ofArray : ∀ items : List Value, (∀ v ∈ items, P v) → P (.array items))
  (ofFlat : ∀ v : Value, v.kind ≠ .container ∧ v.kind ≠ .array → P v)

include ofContainer ofArray ofFlat

/-- What holds of a value when it holds of those inside it holds of every value, with `P` for what
holds. -/
theorem induct (v : Value) : P v := by
  cases v with
  | container d => exact ofContainer d fun n _ => induct n.value
  | array items => exact ofArray items fun v _ => induct v
  | _ => exact ofFlat _ ⟨by simp [kind], by simp [kind]⟩
termination_by sizeOf v
decreasing_by
  · obtain ⟨name, v⟩ := n
    obtain ⟨header, values⟩ := d
    have member := List.sizeOf_lt_of_mem ‹_ ∈ values›
    simp only [Named.mk.sizeOf_spec, container.sizeOf_spec, Document.mk.sizeOf_spec] at member ⊢
    omega
  · have member := List.sizeOf_lt_of_mem ‹_ ∈ items›
    simp only [array.sizeOf_spec]
    omega

end Induction

/-- The property `P` holds of a value and of every value inside it. -/
def Every (P : Value → Prop) (v : Value) : Prop := ∀ depth w, v.HoldsAt depth w → P w

variable {P : Value → Prop}

theorem every_container_iff {d : Document} :
    (container d).Every P ↔ P (.container d) ∧ ∀ n ∈ d.values, n.value.Every P := by
  constructor
  · intro every
    refine ⟨every 0 _ (.here _), fun n mem depth w inside => ?_⟩
    exact every (depth + 1) w (.container mem inside)
  · rintro ⟨self, every⟩ _ w (_ | ⟨mem, inside⟩)
    · exact self
    · exact every _ mem _ w inside

theorem every_array_iff {items : List Value} :
    (array items).Every P ↔ P (.array items) ∧ ∀ v ∈ items, v.Every P := by
  constructor
  · intro every
    refine ⟨every 0 _ (.here _), fun v mem depth w inside => ?_⟩
    exact every (depth + 1) w (.array mem inside)
  · rintro ⟨self, every⟩ _ w (_ | _ | ⟨mem, inside⟩)
    · exact self
    · exact every _ mem _ w inside

/-- Only containers and arrays have anything inside. -/
theorem every_iff_of_flat {v : Value} (flat : v.kind ≠ .container ∧ v.kind ≠ .array) :
    v.Every P ↔ P v := by
  constructor
  · intro every
    exact every 0 v (.here v)
  · rintro self _ w (_ | _ | _)
    · exact self
    · exact absurd rfl flat.1
    · exact absurd rfl flat.2

end Value

/-- Inside a container are what it contains and itself, and `Every` asks for all of it. -/
theorem Document.every_container_iff {P : Value → Prop} {d : Document} :
    (Value.container d).Every P ↔ P (.container d) ∧ ∀ depth w, d.HoldsAt depth w → P w := by
  rw [Value.every_container_iff]
  refine and_congr_right fun _ => ⟨?_, ?_⟩
  · rintro every depth w ⟨n, mem, inside⟩
    exact every n mem depth w inside
  · intro every n mem depth w inside
    exact every depth w ⟨n, mem, inside⟩

/-! ## Containers and documents inside values -/

/-- No container sits `levels` or more levels inside a value. -/
def Value.ContainersWithin (v : Value) (levels : Nat) : Prop :=
  ∀ depth d, v.HoldsAt depth (.container d) → depth < levels

namespace Value

variable {v : Value} {levels : Nat}

theorem containersWithin_container_iff {d : Document} : (container d).ContainersWithin levels ↔
    0 < levels ∧ ∀ n ∈ d.values, n.value.ContainersWithin (levels - 1) := by
  constructor
  · intro within
    refine ⟨within 0 d (.here _), fun n mem depth e inside => ?_⟩
    exact Nat.lt_sub_of_add_lt (within (depth + 1) e (.container mem inside))
  · rintro ⟨positive, within⟩ _ e (_ | ⟨mem, inside⟩)
    · exact positive
    · exact Nat.add_lt_of_lt_sub (within _ mem _ e inside)

theorem containersWithin_array_iff {items : List Value} :
    (array items).ContainersWithin levels ↔ ∀ v ∈ items, v.ContainersWithin (levels - 1) := by
  constructor
  · intro within v mem depth e inside
    exact Nat.lt_sub_of_add_lt (within (depth + 1) e (.array mem inside))
  · rintro within _ e (_ | _ | ⟨mem, inside⟩)
    exact Nat.add_lt_of_lt_sub (within _ mem _ e inside)

end Value

/-- The document `e` is nested in a value at any depth, or is what the value contains. -/
def Value.HasPart (v : Value) (e : Document) : Prop := ∃ depth, v.HoldsAt depth (.container e)

/-- The document `e` is nested in `d` at any depth, or is `d` itself. -/
def Document.HasPart (d e : Document) : Prop := (Value.container d).HasPart e

/-- A value of a document, or of one that is nested in it, has the given `name`. -/
def Document.UsesName (d : Document) (name : String) : Prop :=
  ∃ e, d.HasPart e ∧ ∃ n ∈ e.values, n.name = name

theorem Document.hasPart_iff {d e : Document} :
    d.HasPart e ↔ e = d ∨ ∃ n ∈ d.values, n.value.HasPart e := by
  constructor
  · rintro ⟨_, _ | ⟨mem, inside⟩⟩
    · exact .inl rfl
    · exact .inr ⟨_, mem, _, inside⟩
  · rintro (rfl | ⟨n, mem, depth, inside⟩)
    · exact ⟨0, .here _⟩
    · exact ⟨depth + 1, .container mem inside⟩

theorem Document.HasPart.refl (d : Document) : d.HasPart d := ⟨0, .here _⟩

theorem Value.hasPart_array_iff {items : List Value} {e : Document} :
    (Value.array items).HasPart e ↔ ∃ v ∈ items, v.HasPart e := by
  constructor
  · rintro ⟨_, _ | _ | ⟨mem, inside⟩⟩
    exact ⟨_, mem, _, inside⟩
  · rintro ⟨v, mem, depth, inside⟩
    exact ⟨depth + 1, .array mem inside⟩

/-! ## Levels -/

/-- A document is nested in a value `level` levels down: what a container contains is one level
down, and what an array contains is where it is in the item. -/
inductive Value.NestsAt : Value → Nat → Document → Prop where
  /-- The document of the container. -/
  | here (d : Document) : (Value.container d).NestsAt 1 d
  /-- One level more than inside the value `n` of the nested container. -/
  | container {d : Document} {n : Named} {level : Nat} {e : Document} (mem : n ∈ d.values)
      (inside : n.value.NestsAt level e) : (Value.container d).NestsAt (level + 1) e
  /-- On the level that it has inside `item`. -/
  | array {items : List Value} {item : Value} {level : Nat} {e : Document} (mem : item ∈ items)
      (inside : item.NestsAt level e) : (Value.array items).NestsAt level e

/-- The document `e` is nested in `d`, so many levels below it as `level` says. -/
def Document.NestsAt (d : Document) (level : Nat) (e : Document) : Prop :=
  ∃ n ∈ d.values, n.value.NestsAt level e

namespace Value

/-- No document is nested more than `levels` levels down in a value. -/
def NestsWithin (v : Value) (levels : Nat) : Prop := ∀ level e, v.NestsAt level e → level ≤ levels

variable {v : Value} {levels level : Nat} {e : Document}

theorem nestsWithin_container_iff {d : Document} : (container d).NestsWithin levels ↔
    0 < levels ∧ ∀ n ∈ d.values, n.value.NestsWithin (levels - 1) := by
  constructor
  · intro within
    refine ⟨within 1 d (.here d), fun n mem level e inside => ?_⟩
    exact Nat.le_sub_one_of_lt (within (level + 1) e (.container mem inside))
  · rintro ⟨positive, within⟩ _ e (_ | ⟨mem, inside⟩)
    · exact positive
    · exact Nat.add_le_of_le_sub positive (within _ mem _ e inside)

theorem nestsWithin_array_iff {items : List Value} :
    (array items).NestsWithin levels ↔ ∀ v ∈ items, v.NestsWithin levels := by
  constructor
  · intro within v mem level e inside
    exact within level e (.array mem inside)
  · rintro within _ e (_ | _ | ⟨mem, inside⟩)
    exact within _ mem _ e inside

/-- Only containers and arrays have documents nested in them. -/
theorem nestsWithin_of_flat (flat : v.kind ≠ .container ∧ v.kind ≠ .array) :
    v.NestsWithin levels := by
  rintro _ _ (_ | _ | _)
  · exact absurd rfl flat.1
  · exact absurd rfl flat.1
  · exact absurd rfl flat.2

theorem NestsWithin.mono {more : Nat} (within : v.NestsWithin levels) (le : levels ≤ more) :
    v.NestsWithin more := fun level e inside => Nat.le_trans (within level e inside) le

/-- The document of a container is at the first level. -/
theorem exists_nestsAt_of_kind (container : v.kind = .container) : ∃ e, v.NestsAt 1 e := by
  cases v with
  | container d => exact ⟨d, .here d⟩
  | _ => cases container

theorem NestsAt.pos (nests : v.NestsAt level e) : 0 < level := by
  induction nests with
  | here d => exact Nat.one_pos
  | container _ _ _ => exact Nat.succ_pos _
  | array _ _ ih => exact ih

/-- A value in a nested document sits at least as deep as the `level` of the document. -/
theorem NestsAt.exists_reaches (nests : v.NestsAt level e) :
    ∃ depth, level ≤ depth + 1 ∧ v.Reaches depth ∧ (e.values ≠ [] → v.Reaches (depth + 1)) := by
  induction nests with
  | here d =>
    refine ⟨0, Nat.le_refl 1, .here _, fun some => ?_⟩
    obtain ⟨n, mem⟩ := List.exists_mem_of_ne_nil d.values some
    exact .container mem (.here n.value)
  | container mem _ ih =>
    obtain ⟨depth, le, inside, further⟩ := ih
    exact ⟨depth + 1, Nat.succ_le_succ le, .container mem inside,
      fun some => .container mem (further some)⟩
  | array mem _ ih =>
    obtain ⟨depth, le, inside, further⟩ := ih
    exact ⟨depth + 1, Nat.le_succ_of_le le, .array mem inside,
      fun some => .array mem (further some)⟩

/-- Where values sit above a depth, documents are nested above it as well, except that one without
values may be nested just as deep. -/
theorem Within.level_le (within : v.Within levels) (nests : v.NestsAt level e) :
    level ≤ levels ∧ (e.values ≠ [] → level < levels) := by
  obtain ⟨depth, le, inside, further⟩ := nests.exists_reaches
  refine ⟨Nat.le_trans le (within depth inside), fun some => ?_⟩
  exact Nat.lt_of_le_of_lt le (within (depth + 1) (further some))

end Value

end Parcel
