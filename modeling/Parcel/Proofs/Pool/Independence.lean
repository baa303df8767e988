import Parcel.Proofs.Container.Contents
import Parcel.Proofs.Draft
import Parcel.Proofs.Pool.Accounting

/-!
# What is written does not depend on the pool

A pool hands out buffers of which some have been used before, by anyone and for anything, also for
attempts at writing that were given up half-way. None of that shows. Whether there is a buffer for a
request depends on the request alone: small ones are always served, and large ones are reserved
anew, whatever the pool keeps. The buffer is without content. So what is written into it, and what a
copy reads out of it, is what the container has, in every pool.

## Main results

* `Pool.Clean.acquire_cases` — what a request for a buffer comes to
* `Container.serialize_eq`, `Container.copy_eq` — writing and copying with a clean pool
* `Container.written_eq_encode` — the same with any pool that comes about
-/

namespace Parcel

/-! ## Requests for buffers -/

theorem Memory.reserve_of_le [Memory] {n : Nat} (small : n ≤ 1024 * 1024) : reserve n = .ok () :=
  if_pos (grants_of_le small)

theorem Buffer.reserve_cases [Memory] (capacity : Nat) :
    (∃ e, Memory.reserve capacity = .error e ∧ reserve capacity = .error e) ∨
      ∃ b, Memory.reserve capacity = .ok () ∧ reserve capacity = .ok b ∧ b.content = [] := by
  unfold reserve
  cases Memory.reserve capacity with
  | error e => exact .inl ⟨e, rfl, rfl⟩
  | ok u => exact .inr ⟨_, rfl, rfl, rfl⟩

/-- What a class serves can always be reserved, also when it is rounded up to `classSize`. -/
theorem BlockPool.reserve_of_request [Memory] {capacity i : Nat}
    (served : classForRequest? capacity = some i) :
    Memory.reserve capacity = .ok () ∧ Memory.reserve (classSize i) = .ok () := by
  have within : i < classCount := (classForRequest?_eq_some_iff.1 served).1
  have small : classSize i ≤ 1024 * 1024 := by
    have all : ∀ i < classCount, classSize i ≤ 1024 * 1024 := by decide
    exact all i within
  have meets : capacity ≤ classSize i := le_classSize_of_request served
  exact ⟨Memory.reserve_of_le (meets.trans small), Memory.reserve_of_le small⟩

theorem BlockPool.Clean.acquire_cases [Memory] {p : BlockPool} (clean : p.Clean) (capacity : Nat) :
    (∃ e, Memory.reserve capacity = .error e ∧ (p.acquire capacity).1 = .error e) ∨
      ∃ b, Memory.reserve capacity = .ok () ∧ (p.acquire capacity).1 = .ok b ∧ b.content = [] := by
  have empty {b : Buffer} : (p.acquire capacity).1 = .ok b → b.content = [] :=
    clean.content_of_acquire
  unfold BlockPool.acquire at empty ⊢
  cases served : classForRequest? capacity with
  | none => exact Buffer.reserve_cases capacity
  | some i =>
    obtain ⟨whole, rounded⟩ := reserve_of_request served
    rw [served] at empty
    dsimp only at empty ⊢
    split
    · next b rest found =>
      rw [found] at empty
      exact .inr ⟨b, whole, rfl, empty rfl⟩
    · -- the class has nothing to hand out, and a new buffer of its size is reserved
      obtain ⟨e, fails, -⟩ | ⟨b, -, made, content⟩ := Buffer.reserve_cases (classSize i)
      · rw [rounded] at fails
        cases fails
      · exact .inr ⟨b, whole, made, content⟩

/-- A request to a pool that is `Clean` comes to a buffer without content if its `capacity` can be
reserved, and otherwise to the error of that, whether or not the pool keeps buffers. -/
theorem Pool.Clean.acquire_cases [Memory] {pool : Pool} (clean : pool.Clean) (capacity : Nat) :
    (∃ e rest, Memory.reserve capacity = .error e ∧ pool.acquire capacity = (.error e, rest)) ∨
      ∃ b rest, Memory.reserve capacity = .ok () ∧ pool.acquire capacity = (.ok b, rest) ∧
        b.content = [] := by
  have answered : (∃ e, Memory.reserve capacity = .error e ∧
        (pool.acquire capacity).1 = .error e) ∨
      ∃ b, Memory.reserve capacity = .ok () ∧ (pool.acquire capacity).1 = .ok b ∧
        b.content = [] := by
    cases pool with
    | direct misses => exact Buffer.reserve_cases capacity
    | block p => exact BlockPool.Clean.acquire_cases clean capacity
  obtain ⟨e, refused, failed⟩ | ⟨b, reserved, made, content⟩ := answered
  · exact .inl ⟨e, (pool.acquire capacity).2, refused, by rw [← failed]⟩
  · exact .inr ⟨b, (pool.acquire capacity).2, reserved, by rw [← made], content⟩

/-! ## Writing and copying -/

namespace Container

variable {pool : Pool}

/-- `encodeInto` a buffer without content leaves the encoding in it, or gives the error. -/
theorem encodeInto_nil (f : Format) (d : Document) :
    (∃ e, Codec.encode f d = .error e ∧ (Codec.encodeInto f [] d).2 = .error e) ∨
      ∃ s, Codec.encode f d = .ok s ∧ Codec.encodeInto f [] d = (s, .ok ()) := by
  unfold Codec.encode Codec.encodeInto
  dsimp only
  cases encoded : (Codec.draft f d).finish with
  | error e => exact .inl ⟨e, rfl, rfl⟩
  | ok s =>
    obtain written := Draft.finish_eq_ok_iff.1 encoded
    exact .inr ⟨s, rfl, by rw [written]; rfl⟩

/-- What `serialize` writes is the encoding of the snapshot, if there is memory for it. -/
theorem serialize_eq [Memory] (clean : pool.Clean) (f : Format) (c : Container) :
    (c.serialize f pool).1 = (do
      let d ← c.snapshot.1
      Memory.reserve (estimate d)
      Codec.encode f d) := by
  unfold serialize
  generalize c.snapshot = asked
  obtain ⟨answer, c'⟩ := asked
  cases answer with
  | error e => rfl
  | ok d =>
    dsimp only
    obtain ⟨e, rest, refused, failed⟩ | ⟨b, rest, reserved, made, content⟩ :=
      clean.acquire_cases (estimate d)
    · rw [failed]
      change _ = Memory.reserve (estimate d) >>= _
      rw [refused]
      rfl
    · rw [made]
      change _ = Memory.reserve (estimate d) >>= _
      rw [reserved]
      change _ = Codec.encode f d
      dsimp only
      -- the buffer is empty, so what is in it afterwards is the encoding alone
      rw [content]
      obtain ⟨e, fails, stopped⟩ | ⟨s, encoded, written⟩ := encodeInto_nil f d
      · rw [fails]
        generalize Codec.encodeInto f [] d = left at stopped
        obtain ⟨partly, outcome⟩ := left
        cases stopped
        rfl
      · rw [encoded, written]

/-- A copy is what is read from the encoding of what is copied, if there is memory for that. -/
theorem copy_eq [Memory] (clean : pool.Clean) (withValues : Bool) (c : Container) :
    (c.copy withValues pool).1 = (do
      let whole ← c.snapshot.1
      let d : Document := if withValues then whole else ⟨whole.header, []⟩
      Memory.reserve (estimate d)
      let s ← Codec.encode .text d
      let read ← Codec.decode .text s
      return { ofDocument c.policy read with config := c.config }) := by
  have kept : c.Kept c.snapshot.2 := kept_query _ c
  unfold copy
  generalize c.snapshot = asked at kept
  obtain ⟨answer, c'⟩ := asked
  cases answer with
  | error e => rfl
  | ok whole =>
    dsimp only at kept ⊢
    rw [kept.policy, kept.config]
    change _ = Memory.reserve (estimate (if withValues then whole else ⟨whole.header, []⟩)) >>= _
    generalize (if withValues then whole else (⟨whole.header, []⟩ : Document)) = d
    obtain ⟨e, rest, refused, failed⟩ | ⟨b, rest, reserved, made, content⟩ :=
      clean.acquire_cases (estimate d)
    · rw [failed, refused]
      rfl
    · rw [made, reserved]
      dsimp only
      rw [content]
      obtain ⟨e, fails, stopped⟩ | ⟨s, encoded, written⟩ := encodeInto_nil .text d
      · change _ = Codec.encode .text d >>= _
        rw [fails, stopped]
        rfl
      · change _ = Codec.encode .text d >>= _
        rw [encoded, written]
        change (Codec.decode .text s).map _ = Codec.decode .text s >>= _
        cases Codec.decode .text s <;> rfl

/-- With every `Reachable` pool, whatever has been done with it and by whom, `serialize` gives what
encoding the snapshot gives, and `copy` gives the container of what decoding that encoding gives,
with the same error where there is one. The pool has no part in it: even whether a buffer can be
reserved depends on its size alone. -/
theorem written_eq_encode [Memory] (shared : pool.Reachable) (c : Container) :
    (∀ f, (c.serialize f pool).1 = (do
      let d ← c.snapshot.1
      Memory.reserve (estimate d)
      Codec.encode f d)) ∧
    ∀ withValues, (c.copy withValues pool).1 = (do
      let whole ← c.snapshot.1
      let d : Document := if withValues then whole else ⟨whole.header, []⟩
      Memory.reserve (estimate d)
      let s ← Codec.encode .text d
      let read ← Codec.decode .text s
      return { ofDocument c.policy read with config := c.config }) :=
  ⟨fun f => serialize_eq shared.clean f c, fun withValues => copy_eq shared.clean withValues c⟩

/-- Two values, of which the text format can carry the first one. -/
def partlyWritable : Document := ⟨{}, [⟨"a", .bool true⟩, ⟨"b,c", .null⟩]⟩

open scoped Memory.Plenty

/-- A pool that was handed a buffer with content, and has had a buffer back from an attempt at
writing that stopped after the first value. -/
def usedPool : Pool :=
  (Session.step (.ask (.serialize .text)) ⟨ofDocument .linear partlyWritable,
    (Pool.block (.new 4)).release ⟨128, [0x21]⟩, .empty "."⟩).2.pool

theorem written_eq_encode_usedPool :
    let c := ofDocument .linear partlyWritable
    usedPool.Reachable ∧ usedPool.stats = ⟨1, 0, 1⟩ ∧
      (c.serialize .json usedPool).1 = Codec.encode .json partlyWritable ∧
      (c.serialize .text usedPool).1 = .error (Delimited.Refusal.unusableName "b,c").error ∧
      (c.copy false usedPool).1.map (·.header) = .ok {} := by
  intro c
  have reachable : usedPool.Reachable :=
    .step (.ask (.serialize .text)) (.release ⟨128, [0x21]⟩ (.block 4)) nofun
  obtain ⟨written, copied⟩ := written_eq_encode reachable c
  refine ⟨reachable, by decide +kernel, ?_, ?_, ?_⟩
  · rw [written]
    rfl
  · rw [written]
    decide +kernel
  · rw [copied]
    decide +kernel

end Container

end Parcel
