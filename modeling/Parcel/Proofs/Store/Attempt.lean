import Mathlib.Data.List.Chain
import Parcel.Container.Values

/-!
# Attempts at one value

Conditional updates of one value that are attempted one after the other. An attempt is made exactly
when the value is the expected one at that time, so the updates that are made form a chain: each of
them expected what the one before it had put.

## Main definitions

* `Parcel.Attempt` — a conditional update that a client has attempted
* `Attempt.successes`, `Update.latest` — the updates that were made, and the value they leave
* `Parcel.Sequential` — attempts at one value, one after the other

## Main results

* `Sequential.eq_latest`, `Sequential.made_iff` — what the value is, and when an attempt is made
* `Sequential.head`, `Sequential.isChain` — the updates that are made form a chain
* `Sequential.pairwise` — a race has one winner
-/

namespace Parcel

/-- A conditional update that a client has attempted, and whether it was made. -/
structure Attempt (Client : Type) where
  /-- Who attempted it. -/
  client : Client
  /-- The update. -/
  update : Update
  /-- Whether it was made. -/
  made : Bool

variable {Client : Type}

/-- The updates that were made, in order. -/
def Attempt.successes (log : List (Attempt Client)) : List Update :=
  (log.filter (·.made)).map (·.update)

/-- The new value of the last update, or the value `initial` when there is none. -/
def Update.latest (initial : Option Value) (us : List Update) : Option Value :=
  (us.getLast?.map (·.value)).or initial

/-- Attempts at one value, one after the other, from what the value is before to what it is after
them. -/
inductive Sequential : Option Value → List (Attempt Client) → Option Value → Prop where
  /-- Nothing is attempted. -/
  | nil (v : Option Value) : Sequential v [] v
  /-- The value `v` is the expected one, and is replaced. -/
  | made {v : Value} {w : Option Value} {client : Client} {u : Update}
    {rest : List (Attempt Client)} (expected : v.equal u.expected = true)
    (later : Sequential (some u.value) rest w) : Sequential (some v) (⟨client, u, true⟩ :: rest) w
  /-- The value `v` is another one or missing, and stays. -/
  | refused {v w : Option Value} {client : Client} {u : Update} {rest : List (Attempt Client)}
    (other : ∀ x ∈ v, x.equal u.expected = false) (later : Sequential v rest w) :
    Sequential v (⟨client, u, false⟩ :: rest) w

open Attempt (successes)

theorem Attempt.successes_made (client : Client) (u : Update) (rest : List (Attempt Client)) :
    successes (⟨client, u, true⟩ :: rest) = u :: successes rest := rfl

theorem Attempt.successes_refused (client : Client) (u : Update) (rest : List (Attempt Client)) :
    successes (⟨client, u, false⟩ :: rest) = successes rest := rfl

theorem Update.latest_cons (initial : Option Value) (u : Update) (us : List Update) :
    latest initial (u :: us) = latest (some u.value) us := by
  rw [latest, latest, List.getLast?_cons]
  cases us.getLast? <;> rfl

namespace Sequential

variable {v w x : Option Value} {earlier later log : List (Attempt Client)}

theorem append (first : Sequential v earlier w) (second : Sequential w later x) :
    Sequential v (earlier ++ later) x := by
  induction first with
  | nil v => exact second
  | made expected _ ih => exact .made expected (ih second)
  | refused other _ ih => exact .refused other (ih second)

/-- The value `w` at the end is what the last update has put. -/
theorem eq_latest (attempted : Sequential v log w) : w = Update.latest v (successes log) := by
  induction attempted with
  | nil v => rfl
  | made expected _ ih => rw [Attempt.successes_made, Update.latest_cons, ih]
  | refused other _ ih => rw [Attempt.successes_refused, ih]

/-- At any time there is a value `x` that the attempts before have left for those that follow. -/
theorem split (attempted : Sequential v (earlier ++ later) w) :
    ∃ x, Sequential v earlier x ∧ Sequential x later w := by
  induction earlier generalizing v with
  | nil => exact ⟨v, .nil v, attempted⟩
  | cons a earlier ih =>
    cases attempted with
    | made expected rest =>
      obtain ⟨x, first, second⟩ := ih rest
      exact ⟨x, .made expected first, second⟩
    | refused other rest =>
      obtain ⟨x, first, second⟩ := ih rest
      exact ⟨x, .refused other first, second⟩

/-- An attempt `a` is made exactly when the value at that time is the expected one. -/
theorem made_iff {a : Attempt Client} (attempted : Sequential v (earlier ++ a :: later) w) :
    a.made = true ↔
      ∃ x ∈ Update.latest v (successes earlier), x.equal a.update.expected = true := by
  obtain ⟨y, first, second⟩ := attempted.split
  rw [← first.eq_latest]
  cases second with
  | made expected rest => exact iff_of_true rfl ⟨_, rfl, expected⟩
  | refused other rest =>
    refine iff_of_false Bool.false_ne_true ?_
    rintro ⟨x, here, expected⟩
    rw [other x here] at expected
    cases expected

/-- The first update that is made expected the initial value `v`. -/
theorem head (attempted : Sequential v log w) :
    ∀ u ∈ (successes log).head?, ∃ x ∈ v, x.equal u.expected = true := by
  induction attempted with
  | nil v => exact nofun
  | made expected _ _ =>
    rintro u ⟨⟩
    exact ⟨_, rfl, expected⟩
  | refused other _ ih => exact ih

/-- Every other one expected what the one before it had put. -/
theorem isChain (attempted : Sequential v log w) :
    (successes log).IsChain fun u u' => u.value.equal u'.expected = true := by
  induction attempted with
  | nil v => exact .nil
  | @made v w client u rest expected later ih =>
    rw [Attempt.successes_made, List.isChain_cons]
    refine ⟨?_, ih⟩
    intro u' first
    obtain ⟨x, same, expected⟩ := later.head u' first
    cases same
    exact expected
  | refused other _ ih => exact ih

/-- A value `e` that is not there and is never put is not what any update expected that was made. -/
theorem expected_ne {e : Value} (attempted : Sequential v log w)
    (absent : ∀ x ∈ v, x.equal e = false)
    (fresh : ∀ u ∈ successes log, u.value.equal e = false) :
    ∀ u ∈ successes log, u.expected ≠ e := by
  induction attempted with
  | nil v => exact nofun
  | @made v w client u rest expected later ih =>
    rw [Attempt.successes_made] at fresh ⊢
    obtain ⟨here, others⟩ := List.forall_mem_cons.1 fresh
    refine List.forall_mem_cons.2 ⟨?_, ih ?_ others⟩
    · rintro rfl
      rw [absent v rfl] at expected
      cases expected
    · rintro x ⟨⟩
      exact here
  | refused other _ ih => exact ih absent fresh

/-- Of several updates that expect the value `e`, at most one is made unless some update puts that
value back. -/
theorem pairwise {e : Value} (attempted : Sequential v log w)
    (fresh : ∀ u ∈ successes log, u.value.equal e = false) :
    (successes log).Pairwise fun u u' => ¬(u.expected = e ∧ u'.expected = e) := by
  induction attempted with
  | nil v => exact .nil
  | @made v w client u rest expected later ih =>
    rw [Attempt.successes_made] at fresh ⊢
    obtain ⟨here, others⟩ := List.forall_mem_cons.1 fresh
    refine List.pairwise_cons.2 ⟨?_, ih others⟩
    -- once this one is made, the value is another one from then on
    rintro u' member ⟨-, again⟩
    refine later.expected_ne ?_ others u' member again
    rintro x ⟨⟩
    exact here
  | refused other _ ih => exact ih fresh

end Sequential

end Parcel
