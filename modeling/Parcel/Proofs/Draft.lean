import Parcel.Draft

/-!
# What a finished draft wrote

A draft that was not stopped is made of parts that were not stopped. Each way to build a draft has
one lemma that takes a finished draft apart.

## Main results

* `Draft.finish_eq_ok_iff`, `Draft.append_eq_of_iff`, `Draft.require_eq_of_iff`,
  `Draft.wrap_eq_of_iff`
-/

namespace Parcel.Draft

variable {a b : Draft} {s : Bytes}

theorem of_injective {s t : Bytes} (h : of s = of t) : s = t := congrArg bytes h

theorem finish_eq_ok_iff : a.finish = .ok s ↔ a = .of s := by
  obtain ⟨bytes, _ | e⟩ := a <;> simp [finish, of]

theorem append_eq_of_iff : a ++ b = .of s ↔ ∃ x y, a = .of x ∧ b = .of y ∧ s = x ++ y := by
  change a.append b = .of s ↔ _
  obtain ⟨x, _ | e⟩ := a
  · obtain ⟨y, _ | e⟩ := b <;> simp [append, of, eq_comm]
  · simp [append, of]

theorem require_eq_of_iff {condition : Bool} {e : Error} :
    require condition e = .of s ↔ condition = true ∧ s = [] := by
  cases condition <;> simp [require, of, stop, eq_comm]

theorem wrap_eq_of_iff {f : Bytes → Bytes} : a.wrap f = .of s ↔ ∃ x, a = .of x ∧ s = f x := by
  obtain ⟨x, _ | e⟩ := a
  · simp [wrap, of, eq_comm]
  · simp [wrap, of, stop]

end Parcel.Draft
