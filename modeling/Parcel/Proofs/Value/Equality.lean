import Mathlib.Data.List.Forall2
import Parcel.Proofs.Value.Nesting
import Parcel.Value.Equality

/-!
# The laws of structural equality

Structural equality is symmetric and transitive, and is reflexive just where it can be: a value is
equal to itself unless some payload inside it denotes no number. Documents are compared like the
containers that hold them, and lists part by part, so that every law goes from the parts to the
whole.

## Main definitions

* `Value.isNaN` — a floating-point payload that denotes no number
* `Value.Numeric`, `Document.Numeric` — there is no such payload inside

## Main results

* `Value.equal_symm`, `Value.equal_trans`, and the same for documents
* `Value.equal_self_iff`, `Document.equal_self_iff` — what is equal to itself
-/

namespace Parcel

/-! ## Numbers -/

namespace Binary.Format

variable {f : Format} {a b c : Nat}

theorem equal_iff : f.equal a b = true ↔
    f.isNaN a = false ∧ f.isNaN b = false ∧ (a = b ∨ f.magnitude a = 0 ∧ f.magnitude b = 0) := by
  simp [equal, and_assoc]

theorem equal_symm (same : f.equal a b = true) : f.equal b a = true := by
  rw [equal_iff] at same ⊢
  obtain ⟨number, number', same⟩ := same
  exact ⟨number', number, same.imp Eq.symm And.symm⟩

/-- The two zeros are equal to each other and to nothing else, so they do no harm. -/
theorem equal_trans (first : f.equal a b = true) (second : f.equal b c = true) :
    f.equal a c = true := by
  rw [equal_iff] at first second ⊢
  obtain ⟨number, -, first⟩ := first
  obtain ⟨-, number', second⟩ := second
  refine ⟨number, number', ?_⟩
  rcases first with rfl | ⟨zero, zero'⟩
  · exact second
  · rcases second with rfl | ⟨-, zero''⟩
    · exact .inr ⟨zero, zero'⟩
    · exact .inr ⟨zero, zero''⟩

theorem equal_self_iff : f.equal a a = true ↔ f.isNaN a = false := by
  simp [equal_iff]

end Binary.Format

/-! ## Lists -/

/-- What `R` relates in three lists in a row, it relates in the outer two. -/
theorem forall₂_trans {α : Type} {R : α → α → Prop} {as bs cs : List α}
    (trans : ∀ a ∈ as, ∀ b c, R a b → R b c → R a c) (first : List.Forall₂ R as bs)
    (second : List.Forall₂ R bs cs) : List.Forall₂ R as cs := by
  induction first generalizing cs with
  | nil => exact second
  | cons same _ ih =>
    cases second with
    | cons same' second =>
      obtain ⟨here, later⟩ := List.forall_mem_cons.1 trans
      exact .cons (here _ _ same same') (ih later second)

theorem forall₂_symm {α : Type} {R : α → α → Prop} {as bs : List α}
    (symm : ∀ a ∈ as, ∀ b, R a b → R b a) (related : List.Forall₂ R as bs) :
    List.Forall₂ R bs as := by
  have both := (List.forall₂_and_left as bs).2 ⟨symm, related⟩
  exact (both.imp fun _ b ⟨symm, same⟩ => symm b same).flip

/-! ## Values and documents -/

/-- The named values `m` and `n` have the same name and equal values. -/
def Named.Alike (m n : Named) : Prop := m.name = n.name ∧ m.value.equal n.value = true

theorem Named.equal_iff {m n : Named} : m.equal n = true ↔ m.Alike n := by
  obtain ⟨_, _⟩ := m
  obtain ⟨_, _⟩ := n
  simp [Named.equal, Alike]

theorem Named.equalLists_iff {as bs : List Named} :
    Named.equalLists as bs = true ↔ List.Forall₂ Named.Alike as bs := by
  induction as generalizing bs with
  | nil => cases bs <;> simp [Named.equalLists]
  | cons m as ih => cases bs <;> simp [Named.equalLists, Named.equal_iff, ih]

theorem Document.equal_iff {d e : Document} : d.equal e = true ↔
    d.header = e.header ∧ List.Forall₂ Named.Alike d.values e.values := by
  obtain ⟨_, _⟩ := d
  obtain ⟨_, _⟩ := e
  simp [Document.equal, Named.equalLists_iff]

namespace Value

theorem equalLists_iff {as bs : List Value} : equalLists as bs = true ↔
    List.Forall₂ (fun v w => v.equal w = true) as bs := by
  induction as generalizing bs with
  | nil => cases bs <;> simp [equalLists]
  | cons v as ih => cases bs <;> simp [equalLists, ih]

/-- What equals a container is a container of an `equal` document. -/
theorem equal_container_iff {d : Document} {w : Value} : (container d).equal w = true ↔
    ∃ e, w = container e ∧ d.equal e = true := by
  cases w <;> simp [equal]

/-- What equals a list is a list of `equal` items. -/
theorem equal_array_iff {items : List Value} {w : Value} : (array items).equal w = true ↔
    ∃ others, w = array others ∧ List.Forall₂ (fun v w => v.equal w = true) items others := by
  cases w <;> simp [equal, equalLists_iff]

theorem equal_symm {v w : Value} (same : v.equal w = true) : w.equal v = true := by
  -- on the first value, whose form the second one has to share
  induction v using Value.induct generalizing w with
  | ofContainer d ih =>
    obtain ⟨e, rfl, alike⟩ := equal_container_iff.1 same
    obtain ⟨header, values⟩ := Document.equal_iff.1 alike
    refine equal_container_iff.2 ⟨d, rfl, Document.equal_iff.2 ⟨header.symm, ?_⟩⟩
    exact forall₂_symm (fun m mem n ⟨name, value⟩ => ⟨name.symm, ih m mem value⟩) values
  | ofArray items ih =>
    obtain ⟨others, rfl, alike⟩ := equal_array_iff.1 same
    exact equal_array_iff.2 ⟨items, rfl, forall₂_symm (fun v mem w => ih v mem) alike⟩
  | ofFlat v flat =>
    cases v with
    | container | array => simp [kind] at flat
    | float | double =>
      -- only here are equal payloads not the same thing
      cases w <;> simp only [equal, Bool.false_eq_true] at same ⊢
      exact Binary.Format.equal_symm same
    | _ => cases w <;> simp_all [equal]

theorem equal_trans {v w x : Value} (first : v.equal w = true) (second : w.equal x = true) :
    v.equal x = true := by
  induction v using Value.induct generalizing w x with
  | ofContainer d ih =>
    obtain ⟨e, rfl, alike⟩ := equal_container_iff.1 first
    obtain ⟨e', rfl, alike'⟩ := equal_container_iff.1 second
    obtain ⟨header, values⟩ := Document.equal_iff.1 alike
    obtain ⟨header', values'⟩ := Document.equal_iff.1 alike'
    refine equal_container_iff.2 ⟨e', rfl, Document.equal_iff.2 ⟨header.trans header', ?_⟩⟩
    exact forall₂_trans (fun m mem n o ⟨name, value⟩ ⟨name', value'⟩ =>
      ⟨name.trans name', ih m mem value value'⟩) values values'
  | ofArray items ih =>
    obtain ⟨others, rfl, alike⟩ := equal_array_iff.1 first
    obtain ⟨others', rfl, alike'⟩ := equal_array_iff.1 second
    exact equal_array_iff.2
      ⟨others', rfl, forall₂_trans (fun v mem w x => ih v mem) alike alike'⟩
  | ofFlat v flat =>
    cases v with
    | container | array => simp [kind] at flat
    | float | double =>
      cases w <;> simp only [equal, Bool.false_eq_true] at first
      cases x <;> simp only [equal, Bool.false_eq_true] at second ⊢
      exact Binary.Format.equal_trans first second
    | _ => cases w <;> simp_all [equal]

/-! ## What is equal to itself -/

/-- A floating-point payload that denotes no number. -/
def isNaN : Value → Bool
  | float bits => Binary.single.isNaN bits.toNat
  | double bits => Binary.double.isNaN bits.toNat
  | _ => false

/-- Every floating-point payload inside a value denotes a number. -/
def Numeric (v : Value) : Prop := v.Every fun w => w.isNaN = false

/-- A value is equal to itself exactly when it is `Numeric`: no payload inside it fails to denote a
number. -/
theorem equal_self_iff {v : Value} : v.equal v = true ↔ v.Numeric := by
  induction v using Value.induct with
  | ofContainer d ih =>
    -- names are equal to themselves, so that it is up to the values
    have members : (∀ n ∈ d.values, n.Alike n) ↔ ∀ n ∈ d.values, n.value.Numeric := by
      refine forall₂_congr fun n mem => ?_
      rw [← ih n mem]
      exact and_iff_right rfl
    rw [Numeric, every_container_iff, equal, Document.equal_iff, List.forall₂_same, members]
    exact and_congr_left fun _ => iff_of_true rfl rfl
  | ofArray items ih =>
    rw [Numeric, every_array_iff, equal, equalLists_iff, List.forall₂_same, forall₂_congr ih]
    exact (and_iff_right rfl).symm
  | ofFlat v flat =>
    rw [Numeric, every_iff_of_flat flat]
    cases v with
    | container | array => simp [kind] at flat
    | float | double =>
      rw [equal]
      exact Binary.Format.equal_self_iff
    | _ => simp [equal, isNaN]

end Value

namespace Document

variable {d e f : Document}

/-- Every floating-point payload inside a document denotes a number. -/
def Numeric (d : Document) : Prop := ∀ depth v, d.HoldsAt depth v → v.isNaN = false

/-- Documents are compared like the containers that hold them. -/
theorem equal_container : (Value.container d).equal (.container e) = d.equal e := by
  rw [Value.equal]

theorem equal_symm (same : d.equal e = true) : e.equal d = true := by
  rw [← equal_container] at same ⊢
  exact Value.equal_symm same

theorem equal_trans (first : d.equal e = true) (second : e.equal f = true) :
    d.equal f = true := by
  rw [← equal_container] at first second ⊢
  exact Value.equal_trans first second

/-- A document is equal to itself exactly when it is `Numeric`: no payload inside it fails to denote
a number. -/
theorem equal_self_iff : d.equal d = true ↔ d.Numeric := by
  rw [← equal_container, Value.equal_self_iff, Value.Numeric, every_container_iff]
  exact and_iff_right rfl

end Document

end Parcel
