/-!
# Results and refusals

What a result tells about the steps that it was made of.

## Main results

* `Except.exists_of_bind_eq_ok` — of two steps, one after the other
* `Except.exists_of_map_eq_ok`, `Except.eq_ok_of_mapError_eq_ok` — of a result or an error that was
  converted
-/

namespace Except

variable {ε ε' α β : Type} {x : Except ε α}

/-- Two steps `x` and `f` give a result only when both do. -/
theorem exists_of_bind_eq_ok {f : α → Except ε β} {b : β} (h : x >>= f = .ok b) :
    ∃ a, x = .ok a ∧ f a = .ok b := by
  cases x with
  | error e => cases h
  | ok a => exact ⟨a, rfl, h⟩

/-- A result that `f` converted was a result. -/
theorem exists_of_map_eq_ok {f : α → β} {b : β} (h : x.map f = .ok b) :
    ∃ a, x = .ok a ∧ f a = b := by
  cases x with
  | error e => cases h
  | ok a => exact ⟨a, rfl, Except.ok.inj h⟩

/-- Translating errors by `f` makes no results. -/
theorem eq_ok_of_mapError_eq_ok {f : ε → ε'} {a : α} (h : x.mapError f = .ok a) : x = .ok a := by
  cases x with
  | error e => cases h
  | ok b => exact congrArg _ (Except.ok.inj h)

end Except
