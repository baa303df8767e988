import Mathlib.Data.List.Forall2
import Parcel.Outcome

/-!
# Results under a condition

A reader with a limit gives what was written as long as the limit is kept, and stops with one error
otherwise, wherever in the input the limit is met. Both halves go through the reader together: the
parts of an input are read one after the other, and the first refusal ends the reading. What a
reader makes of an input that goes on is told from what it makes of the first part in the same way,
step by step.

## Main definitions

* `Parcel.Gives` — a result under a condition, and an error otherwise
* `Parcel.Extends` — a result that carries over to another reading

## Main results

* `List.mapM_eq_ok_iff` — a list that is read item by item
* `Gives.both`, `Gives.andThen` — two parts, read apart or one after the other
* `Extends.bind` — one part after the other
-/

/-- A list `as` is read when every item is, as the item in its place in `bs`. -/
theorem List.mapM_eq_ok_iff {ε α β : Type} {read : α → Except ε β} {as : List α} {bs : List β} :
    as.mapM read = .ok bs ↔ List.Forall₂ (fun a b => read a = .ok b) as bs := by
  constructor
  · intro all
    induction as generalizing bs with
    | nil => cases all; exact .nil
    | cons a as ih =>
      rw [List.mapM_cons] at all
      obtain ⟨b, first, rest⟩ := Except.exists_of_bind_eq_ok all
      obtain ⟨others, following, finish⟩ := Except.exists_of_bind_eq_ok rest
      cases finish
      exact .cons first (ih following)
  · intro all
    induction all with
    | nil => rfl
    | cons first _ ih => rw [List.mapM_cons, first, ih]; rfl

namespace Parcel

/-- The result is `x` under a condition, and the error `e` otherwise. -/
structure Gives {ε α : Type} (x : α) (fits : Prop) (e : ε) (result : Except ε α) : Prop where
  ok : fits → result = .ok x
  error : ¬fits → result = .error e

namespace Gives

variable {ε α β γ : Type} {x : α} {y : β} {p q : Prop} {e : ε} {r : Except ε α} {r' : Except ε β}

/-- A result `x` under a condition that holds. -/
theorem of_eq_ok (read : r = .ok x) (fits : p) : Gives x p e r :=
  ⟨fun _ => read, fun refused => absurd fits refused⟩

theorem congr (gives : Gives x p e r) (iff : q ↔ p) : Gives x q e r :=
  ⟨fun fits => gives.ok (iff.1 fits), fun refused => gives.error (mt iff.2 refused)⟩

/-- Whatever comes out of `r` is the result. -/
theorem eq_of_eq_ok {a : α} (gives : Gives x p e r) (read : r = .ok a) : a = x := by
  by_cases fits : p
  · rw [gives.ok fits] at read
    exact (Except.ok.inj read).symm
  · rw [gives.error fits] at read
    cases read

theorem map (gives : Gives x p e r) (f : α → β) : Gives (f x) p e (r.map f) :=
  ⟨fun fits => by rw [gives.ok fits]; rfl, fun refused => by rw [gives.error refused]; rfl⟩

/-- The first refusal ends the reading of two parts. -/
theorem both (first : Gives x p e r) (second : Gives y q e r') (f : α → β → γ) :
    Gives (f x y) (p ∧ q) e (do
      let a ← r
      let b ← r'
      return f a b) := by
  constructor
  · rintro ⟨here, later⟩
    rw [first.ok here, second.ok later]
    rfl
  · intro refused
    by_cases here : p
    · rw [first.ok here, second.error fun later => refused ⟨here, later⟩]
      rfl
    · rw [first.error here]
      rfl

/-- The second part is read from what the first one left. -/
theorem andThen {σ : Type} {s t : σ} {first : Except ε (α × σ)} {second : σ → Except ε (β × σ)}
    (here : Gives (x, s) p e first) (later : Gives (y, t) q e (second s)) (f : α → β → γ) :
    Gives (f x y, t) (p ∧ q) e (do
      let (a, s) ← first
      let (b, s) ← second s
      return (f a b, s)) := by
  constructor
  · rintro ⟨fits, fits'⟩
    simp only [here.ok fits, bind, Except.bind, later.ok fits']
    rfl
  · intro refused
    by_cases fits : p
    · simp only [here.ok fits, bind, Except.bind, later.error fun fits' => refused ⟨fits, fits'⟩]
    · simp only [here.error fits, bind, Except.bind]

end Gives

/-- Whatever comes out of `r` comes out of `r'`, carried over by `carry`. -/
def Extends {ε α β : Type} (carry : α → β) (r : Except ε α) (r' : Except ε β) : Prop :=
  ∀ a, r = .ok a → r' = .ok (carry a)

namespace Extends

variable {ε α β γ δ : Type} {carry : α → β} {carry' : γ → δ} {r : Except ε α} {r' : Except ε β}

theorem ok (a : α) : Extends carry (.ok a : Except ε α) (.ok (carry a)) := by
  rintro _ ⟨⟩
  rfl

theorem refl : Extends id r r := fun _ read => read

/-- Nothing comes out of a refusal. -/
theorem error (e : ε) : Extends carry (.error e) r' := nofun

theorem bind {next : α → Except ε γ} {next' : β → Except ε δ} (first : Extends carry r r')
    (later : ∀ a, r = .ok a → Extends carry' (next a) (next' (carry a))) :
    Extends carry' (r >>= next) (r' >>= next') := by
  intro c read
  cases here : r with
  | error e =>
    rw [here] at read
    cases read
  | ok a =>
    rw [here] at read
    rw [first a here]
    exact later a here c read

end Extends

end Parcel
