import Parcel.Error

/-!
# Writing into a buffer

A writer that works piece by piece is an action on a buffer. It goes on from whatever the buffer
holds, and what it put there before an error stays there.

## Main definitions

* `Parcel.Writing` — actions on a buffer that may fail
* `Writing.put`, `Writing.require`, `Writing.aside` — the steps of the writers
* `Writing.Appends` — an action that only puts something behind what the buffer holds

## Main results

* `Writing.Appends.bind`, `Writing.Appends.halt` — one action after another
* `Writing.Appends.aside`, `Writing.Appends.aside_halt` — what is written aside stays aside
-/

namespace Parcel

/-- Actions on a buffer that give a result or an error. -/
abbrev Writing (S : Type) := ExceptT Error (StateM (List S))

namespace Writing

variable {S T α β : Type}

/-- What an action gives and the buffer it leaves, when it starts from the buffer `p`. -/
def onto (w : Writing S α) (p : List S) : Except Error α × List S :=
  StateT.run (ExceptT.run w) p

/-- Puts items behind what the buffer holds. -/
def put (s : List S) : Writing S Unit := modify (· ++ s)

/-- Goes on only when the condition holds. -/
def require (condition : Bool) (e : Error) : Writing S Unit :=
  if condition then pure () else throw e

/-- Writes into an empty buffer of its own and gives what that buffer holds at the end. -/
def aside (w : Writing T α) : Writing S (List T) :=
  match onto w [] with
  | (.ok _, s) => pure s
  | (.error e, _) => throw e

theorem onto_bind (w : Writing S α) (k : α → Writing S β) (p : List S) :
    onto (w >>= k) p = match onto w p with
      | (.ok a, q) => onto (k a) q
      | (.error e, q) => (.error e, q) := by
  simp only [onto, ExceptT.run_bind, StateT.run_bind]
  cases StateT.run (ExceptT.run w) p with
  | mk r q => cases r <;> rfl

/-- The action gives `r`, and all it does to any buffer is to put `s` behind what it holds. -/
def Appends (w : Writing S α) (r : Except Error α) (s : List S) : Prop :=
  ∀ p, onto w p = (r, p ++ s)

namespace Appends

variable {w : Writing S α} {k : α → Writing S β} {s t : List S} {e : Error}

theorem pure (a : α) : Appends (S := S) (Pure.pure a) (.ok a) [] := by
  intro p
  rw [List.append_nil]
  rfl

theorem throw (e : Error) :
    Appends (S := S) (MonadExcept.throw e) (.error e : Except Error α) [] := by
  intro p
  rw [List.append_nil]
  rfl

theorem put (s : List S) : Appends (Writing.put s) (.ok ()) s := fun _ => rfl

/-- An action that came to its end is followed by the next one, `k`. -/
theorem bind {a : α} {r : Except Error β} (first : Appends w (.ok a) s)
    (next : Appends (k a) r t) : Appends (w >>= k) r (s ++ t) := by
  intro p
  rw [onto_bind, first p]
  exact (next (p ++ s)).trans (by rw [List.append_assoc])

theorem seq {v : Writing S α} {w : Writing S β} {a : α} {r : Except Error β}
    (first : Appends v (.ok a) s) (next : Appends w r t) :
    Appends (v >>= fun _ => w) r (s ++ t) :=
  first.bind next

/-- Nothing follows an action that failed with `e`. -/
theorem halt (first : Appends w (.error e) s) : Appends (w >>= k) (.error e) s := by
  intro p
  rw [onto_bind, first p]

/-- What `v` writes aside is given, and does not reach the buffer. -/
theorem aside {v : Writing T α} {a : α} {s : List T} (whole : Appends v (.ok a) s) :
    Appends (S := S) (Writing.aside v) (.ok s) [] := by
  rw [Writing.aside, whole []]
  exact pure s

/-- An error aside leaves the buffer alone, whatever `v` wrote before it. -/
theorem aside_halt {v : Writing T α} {s : List T} (failed : Appends v (.error e) s) :
    Appends (S := S) (Writing.aside v) (.error e) [] := by
  rw [Writing.aside, failed []]
  exact throw e

end Appends

end Writing

end Parcel
