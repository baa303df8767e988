import Parcel.Proofs.Container.Session

/-!
# Buffers come from the pool without content

A pool clears a buffer when it takes it back, so every buffer that it keeps is without content, and
so is every buffer that it hands out. What is written into such a buffer is all that is in it.

## Main definitions

* `Pool.Clean` — no buffer that the pool keeps has content
* `Pool.Reachable` — the pools that sessions lead to

## Main results

* `Pool.Clean.content_of_acquire` — a buffer from a clean pool has no content
* `Pool.Clean.acquire`, `Pool.Clean.release` — a clean pool stays clean
* `Pool.Clean.perform`, `Session.clean_step` — whatever is done with a container that takes its
  buffers from it
* `Pool.Reachable.clean` — so every pool is clean
-/

namespace Parcel

/-- A new buffer has no content. -/
theorem Buffer.content_of_reserve [Memory] {capacity : Nat} {b : Buffer}
    (reserved : Buffer.reserve capacity = .ok b) : b.content = [] := by
  unfold Buffer.reserve at reserved
  cases memory : Memory.reserve capacity with
  | error e =>
    rw [memory] at reserved
    cases reserved
  | ok u =>
    rw [memory] at reserved
    cases reserved
    rfl

namespace BlockPool

/-- No buffer that the pool keeps has content. -/
def Clean (p : BlockPool) : Prop := ∀ kept ∈ p.classes, ∀ b ∈ kept, b.content = []

variable {p : BlockPool} {capacity : Nat}

theorem clean_new (maxPerClass : Nat) : (new maxPerClass).Clean := by
  intro kept mem b inside
  obtain ⟨-, rfl⟩ := List.mem_replicate.1 mem
  cases inside

/-- What `acquire` hands out is either kept by the pool or new. -/
theorem Clean.content_of_acquire [Memory] (clean : p.Clean) {b : Buffer}
    (acquired : (p.acquire capacity).1 = .ok b) : b.content = [] := by
  unfold acquire at acquired
  split at acquired
  · exact Buffer.content_of_reserve acquired
  · split at acquired
    · next first rest found =>
      cases acquired
      exact clean _ (List.mem_of_getElem? found) _ List.mem_cons_self
    · exact Buffer.content_of_reserve acquired

theorem Clean.acquire [Memory] (clean : p.Clean) : (p.acquire capacity).2.Clean := by
  unfold BlockPool.acquire
  split
  · exact clean
  · split
    · next first rest found =>
      intro kept mem b inside
      rcases List.mem_or_eq_of_mem_set mem with old | rfl
      · exact clean kept old b inside
      · -- one buffer less in a class that was there before
        exact clean _ (List.mem_of_getElem? found) b (List.mem_cons_of_mem first inside)
    · exact clean

/-- A buffer is cleared before it is kept. -/
theorem Clean.release (clean : p.Clean) (b : Buffer) : (p.release b).Clean := by
  unfold BlockPool.release
  split
  · exact clean
  · next i _ =>
    intro kept mem x inside
    obtain ⟨j, here⟩ := List.mem_iff_getElem?.1 mem
    rw [List.getElem?_modify] at here
    obtain ⟨old, found, rfl⟩ := Option.map_eq_some_iff.1 here
    have before : old ∈ p.classes := List.mem_of_getElem? found
    split at inside
    · split at inside
      · rcases List.mem_cons.1 inside with rfl | inside
        · rfl
        · exact clean old before x inside
      · exact clean old before x inside
    · exact clean old before x inside

end BlockPool

namespace Pool

/-- No buffer that the pool keeps has content; a direct pool keeps none. -/
def Clean : Pool → Prop
  | direct _ => True
  | block p => p.Clean

variable {pool : Pool} {capacity : Nat}

theorem Clean.content_of_acquire [Memory] (clean : pool.Clean) {b : Buffer}
    (acquired : (pool.acquire capacity).1 = .ok b) : b.content = [] := by
  cases pool with
  | direct misses => exact Buffer.content_of_reserve acquired
  | block p => exact BlockPool.Clean.content_of_acquire clean acquired

theorem Clean.acquire [Memory] (clean : pool.Clean) {answer : Except Error Buffer} {rest : Pool}
    (acquired : pool.acquire capacity = (answer, rest)) : rest.Clean := by
  have left : (pool.acquire capacity).2.Clean := by
    cases pool with
    | direct misses => exact trivial
    | block p => exact BlockPool.Clean.acquire clean
  rw [acquired] at left
  exact left

theorem Clean.release (clean : pool.Clean) (b : Buffer) : (pool.release b).Clean := by
  cases pool with
  | direct misses => exact trivial
  | block p => exact BlockPool.Clean.release clean b

theorem clean_reset (pool : Pool) : pool.reset.Clean := by
  cases pool with
  | direct misses => exact trivial
  | block p => exact BlockPool.clean_new p.maxPerClass

theorem Clean.serialize [Memory] (clean : pool.Clean) (f : Format) (c : Container) :
    (c.serialize f pool).2.2.Clean := by
  unfold Container.serialize
  split
  · exact clean
  · split
    · next acquired => exact clean.acquire acquired
    · next acquired =>
      have left := clean.acquire acquired
      split
      · exact left.release _
      · exact left

theorem Clean.copy [Memory] (clean : pool.Clean) (withValues : Bool) (c : Container) :
    (c.copy withValues pool).2.2.Clean := by
  unfold Container.copy
  split
  · exact clean
  · dsimp only
    split
    · next acquired => exact clean.acquire acquired
    · next acquired => exact (clean.acquire acquired).release _

/-- Only writing and copying take buffers, and they leave a pool that is `Clean`. -/
theorem Clean.perform [Memory] (clean : pool.Clean) (r : Request) (c : Container) :
    (r.perform c pool).2.2.Clean := by
  cases r with
  | serialize f => exact clean.serialize f c
  | serializeText f =>
    change (c.serializeText f pool).2.2.Clean
    unfold Container.serializeText
    split
    · exact clean
    · exact clean.serialize f c
  | copy withValues => exact clean.copy withValues c
  | _ => exact clean

end Pool

/-! ## Sessions -/

namespace Session

variable {s : Session}

theorem clean_ask [Memory] (clean : s.pool.Clean) (r : Request) : (s.ask r).2.pool.Clean :=
  clean.perform r s.container

/-- An act leaves a pool that is `Clean`, unless it brings in another one that is not. -/
theorem clean_step [Memory] (clean : s.pool.Clean) {a : Act}
    (given : ∀ pool, a = .usePool pool → pool.Clean) : (s.step a).2.pool.Clean := by
  cases a with
  | ask r => exact clean_ask clean r
  | usePool pool => exact given pool rfl
  | resetPool => exact s.pool.clean_reset
  | save file f =>
    have asked := clean_ask clean (.serialize f)
    change (s.save file f).2.pool.Clean
    unfold save
    generalize s.ask (.serialize f) = r at asked
    obtain ⟨answer, t⟩ := r
    -- writing the file itself takes no buffer
    cases answer <;> exact asked
  | load file =>
    change (s.load file).2.pool.Clean
    unfold load
    split
    · exact clean_ask clean _
    · exact clean
  | _ => exact clean

end Session

/-- The pools that come about: new ones, and what is left of them by acts of the containers that
share them and by buffers that are taken or handed back directly. -/
inductive Pool.Reachable [Memory] : Pool → Prop where
  /-- Buffers straight from memory. -/
  | direct : Reachable (.direct 0)
  /-- A new pool of buffers, with room for `maxPerClass` in a class. -/
  | block (maxPerClass : Nat) : Reachable (.block (.new maxPerClass))
  /-- A pool after the act `a`. -/
  | step {s : Session} (a : Session.Act) (reachable : Reachable s.pool)
    (given : ∀ pool, a = .usePool pool → Reachable pool) : Reachable (s.step a).2.pool
  /-- A pool that was asked for a buffer of `capacity`. -/
  | acquire {pool : Pool} (capacity : Nat) (reachable : Reachable pool) :
    Reachable (pool.acquire capacity).2
  /-- A pool that was handed the buffer `b`, with whatever is in it. -/
  | release {pool : Pool} (b : Buffer) (reachable : Reachable pool) : Reachable (pool.release b)

/-- Every `Reachable` pool is `Clean`. -/
theorem Pool.Reachable.clean [Memory] {pool : Pool} (reachable : pool.Reachable) : pool.Clean := by
  induction reachable with
  | direct => exact trivial
  | block maxPerClass => exact BlockPool.clean_new maxPerClass
  | step a _ _ clean given => exact Session.clean_step clean given
  | acquire capacity _ clean => exact clean.acquire rfl
  | release b _ clean => exact clean.release b

end Parcel
