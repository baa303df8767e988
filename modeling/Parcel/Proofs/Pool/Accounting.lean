import Mathlib.Algebra.Group.Nat.Defs
import Mathlib.Data.Nat.Log
import Parcel.Proofs.Pool

/-!
# What a block pool hands out and what it counts

A request is rounded up to a power of two and a buffer that is handed back is rounded down to one,
and the size classes are the powers from the sixth to the twentieth. The two roundings meet: a
buffer that was kept in a class is large enough for every request that the class serves, so what is
handed out is large enough whatever has been handed in before.

The counters tell what has happened since they were last at zero, up to the size of a word. A ledger
that is kept on the side says what that is.

## Main definitions

* `BlockPool.requestExponent`, `BlockPool.bufferExponent` — the two roundings
* `Pool.Use`, `Pool.after` — what can be done with a pool
* `BlockPool.Ledger`, `BlockPool.run` — what has been done with a block pool
* `BlockPool.Stocked`, `BlockPool.Ledger.Agrees` — what holds of the buffers, and of the counters

## Main results

* `BlockPool.classForRequest?_eq_some_iff`, `BlockPool.classForBuffer?_eq_some_iff` — the classes
  by the exponents of the roundings
* `BlockPool.classForRequest?_eq_find?`, `BlockPool.classForBuffer?_eq_find?` — and as the first and
  the last ones that will do
* `BlockPool.Stocked.capacity_of_acquire` — a buffer that is handed out is large enough
* `BlockPool.Stocked.after`, `BlockPool.Ledger.Agrees.after` — one use
* `BlockPool.stocked_and_counted` — any number of uses
-/

namespace Parcel

/-- A new buffer has the capacity that was asked for. -/
theorem Buffer.capacity_of_reserve [Memory] {capacity : Nat} {b : Buffer}
    (reserved : Buffer.reserve capacity = .ok b) : b.capacity = capacity := by
  unfold Buffer.reserve at reserved
  cases memory : Memory.reserve capacity with
  | error e =>
    rw [memory] at reserved
    cases reserved
  | ok u =>
    rw [memory] at reserved
    cases reserved
    rfl

namespace BlockPool

/-! ## Size classes -/

/-- The exponent of the power of two that a request is rounded up to; small requests are rounded up
to the first class. -/
def requestExponent (capacity : Nat) : Nat := Nat.clog 2 (max capacity 64)

/-- The exponent of the power of two that the capacity of a buffer is rounded down to; large buffers
are rounded down to the last class. -/
def bufferExponent (capacity : Nat) : Nat := min (Nat.log 2 capacity) 20

section Classes

variable {capacity i j : Nat}

theorem classSize_eq (i : Nat) : classSize i = 2 ^ (i + 6) := by
  change 64 * 2 ^ i = _
  rw [Nat.pow_add, Nat.mul_comm]

/-- A class meets a request when its exponent is no less than `requestExponent`. -/
theorem le_classSize_iff : capacity ≤ classSize i ↔ requestExponent capacity ≤ i + 6 := by
  have least : 64 ≤ classSize i := Nat.le_mul_of_pos_right 64 (Nat.two_pow_pos i)
  rw [requestExponent, Nat.clog_le_iff_le_pow (by decide), ← classSize_eq, Nat.max_le]
  exact ⟨fun le => ⟨le, least⟩, And.left⟩

theorem six_le_requestExponent (capacity : Nat) : 6 ≤ requestExponent capacity := by
  have rounded : (2 : Nat) ^ 5 < max capacity 64 := by omega
  exact (Nat.lt_clog_iff_pow_lt (by decide)).2 rounded

/-- A buffer meets the guarantee of a class when its exponent is no less than that of the class. -/
theorem classSize_le_iff (large : 64 ≤ capacity) :
    classSize i ≤ capacity ↔ i + 6 ≤ Nat.log 2 capacity := by
  rw [classSize_eq, Nat.le_log_iff_pow_le (by decide) (by omega)]

/-- The last of the numbers below `n` that pass the test `p`. -/
theorem find?_reverse_range {p : Nat → Bool} {n : Nat} :
    (List.range n).reverse.find? p = some i ↔
      i < n ∧ p i = true ∧ ∀ j, i < j → j < n → p j = false := by
  induction n with
  | zero => simp
  | succ n ih =>
    rw [List.range_succ, List.reverse_append, List.reverse_singleton, List.singleton_append,
      List.find?_cons]
    cases last : p n with
    | true =>
      constructor
      · rintro ⟨⟩
        exact ⟨Nat.lt_succ_self _, last, fun j above below => by omega⟩
      · rintro ⟨below, passes, greater⟩
        -- a smaller number is not the last one to pass
        rcases Nat.lt_or_ge i n with smaller | equal
        · rw [greater n smaller (Nat.lt_succ_self n)] at last
          cases last
        · rw [Nat.le_antisymm (Nat.le_of_lt_succ below) equal]
    | false =>
      rw [ih]
      constructor
      · rintro ⟨below, passes, greater⟩
        refine ⟨Nat.lt_succ_of_lt below, passes, fun j above within => ?_⟩
        rcases Nat.lt_or_ge j n with smaller | equal
        · exact greater j above smaller
        · rw [Nat.le_antisymm (Nat.le_of_lt_succ within) equal, last]
      · rintro ⟨below, passes, greater⟩
        have different : i ≠ n := by
          rintro rfl
          rw [passes] at last
          cases last
        exact ⟨by omega, passes, fun j above within => greater j above (by omega)⟩

/-- Rounding up is to the exponent `Nat.clog`, as long as the power fits in a word. -/
theorem nextPowerOfTwo?_eq (n : Nat) : nextPowerOfTwo? n =
    if Nat.clog 2 n < 64 then some (2 ^ Nat.clog 2 n) else none := by
  have rounded : (if n ≤ 1 then 1 else Nat.pow 2 ((n - 1).log2 + 1)) = 2 ^ Nat.clog 2 n := by
    by_cases small : n ≤ 1
    · rw [if_pos small, Nat.clog_of_right_le_one small]
      rfl
    · rw [if_neg small]
      have below : n - 1 < 2 ^ ((n - 1).log2 + 1) := Nat.lt_log2_self
      have above : 2 ^ (n - 1).log2 ≤ n - 1 := Nat.log2_self_le (by omega)
      have exponent : Nat.clog 2 n = (n - 1).log2 + 1 := by
        refine Nat.le_antisymm ((Nat.clog_le_iff_le_pow (by decide)).2 (by omega)) ?_
        exact (Nat.lt_clog_iff_pow_lt (by decide)).2 (by omega)
      rw [exponent]
      rfl
  have fits : 2 ^ Nat.clog 2 n < Nat.pow 2 64 ↔ Nat.clog 2 n < 64 :=
    Nat.pow_lt_pow_iff_right (by decide)
  rw [nextPowerOfTwo?, rounded]
  simp only [fits]

/-- A request is served by the class that `requestExponent` rounds it up to, if there is one. -/
theorem classForRequest?_eq_some_iff :
    classForRequest? capacity = some i ↔ i < classCount ∧ requestExponent capacity = i + 6 := by
  have least := six_le_requestExponent capacity
  have bounded : classForRequest? capacity =
      if requestExponent capacity ≤ 20 then some (requestExponent capacity - 6) else none := by
    rw [classForRequest?, nextPowerOfTwo?_eq]
    change (if requestExponent capacity < 64 then some (2 ^ requestExponent capacity)
      else none).bind _ = _
    -- a power that does not fit in a word is beyond the last class as well
    by_cases fits : requestExponent capacity < 64
    · rw [if_pos fits, Option.bind_some, Nat.log2_two_pow]
      rfl
    · rw [if_neg fits, if_neg (by omega)]
      rfl
  rw [bounded, classCount]
  split
  · rw [Option.some.injEq]
    omega
  · simp only [reduceCtorEq, false_iff]
    omega

/-- A buffer is kept in the class that `bufferExponent` rounds it down to, unless it is below the
first. -/
theorem classForBuffer?_eq_some_iff : classForBuffer? capacity = some i ↔
    i < classCount ∧ 64 ≤ capacity ∧ bufferExponent capacity = i + 6 := by
  rw [classForBuffer?, classCount, bufferExponent, ← Nat.log2_eq_log_two]
  change (if capacity < 64 then none else some (min capacity.log2 20 - 6)) = some i ↔ _
  split
  · simp only [reduceCtorEq, false_iff]
    omega
  · next large =>
    have exponent : 6 ≤ capacity.log2 := (Nat.le_log2 (by omega)).2 (by omega)
    rw [Option.some.injEq]
    omega

theorem le_classSize_of_request (served : classForRequest? capacity = some i) :
    capacity ≤ classSize i :=
  le_classSize_iff.2 (Nat.le_of_eq (classForRequest?_eq_some_iff.1 served).2)

theorem classSize_le_of_buffer (kept : classForBuffer? capacity = some i) :
    classSize i ≤ capacity := by
  obtain ⟨-, large, exponent⟩ := classForBuffer?_eq_some_iff.1 kept
  refine (classSize_le_iff large).2 ?_
  rw [← exponent]
  exact Nat.min_le_left _ _

/-- Rounding up by `classForRequest?` finds the first class that guarantees what was asked for. -/
theorem classForRequest?_eq_find? (capacity : Nat) : classForRequest? capacity =
    (List.range classCount).find? fun i => capacity ≤ classSize i := by
  have least := six_le_requestExponent capacity
  ext i
  rw [classForRequest?_eq_some_iff, List.find?_range_eq_some]
  simp only [decide_eq_true_eq, List.mem_range, Bool.not_eq_true', decide_eq_false_iff_not,
    le_classSize_iff]
  constructor
  · rintro ⟨below, rounded⟩
    exact ⟨by omega, below, fun j before => by omega⟩
  · rintro ⟨meets, below, smaller⟩
    refine ⟨below, Nat.le_antisymm meets ?_⟩
    rcases i with _ | i
    · exact least
    · have := smaller i (Nat.lt_succ_self i)
      omega

/-- Rounding down by `classForBuffer?` finds the last class whose guarantee a buffer meets. -/
theorem classForBuffer?_eq_find? (capacity : Nat) : classForBuffer? capacity =
    (List.range classCount).reverse.find? fun i => classSize i ≤ capacity := by
  ext i
  rw [classForBuffer?_eq_some_iff, find?_reverse_range]
  simp only [decide_eq_true_eq, decide_eq_false_iff_not, bufferExponent]
  constructor
  · rintro ⟨below, large, rounded⟩
    unfold classCount at below ⊢
    refine ⟨below, (classSize_le_iff large).2 (by omega), fun j above within => ?_⟩
    rw [classSize_le_iff large]
    omega
  · rintro ⟨below, meets, greater⟩
    have large : 64 ≤ capacity :=
      Nat.le_trans (Nat.le_mul_of_pos_right 64 (Nat.two_pow_pos i)) meets
    have next := greater (i + 1) (Nat.lt_succ_self i)
    rw [classSize_le_iff large] at meets next
    unfold classCount at below next
    refine ⟨below, large, ?_⟩
    -- the class above is missing or too large, so the exponent is clamped or exact
    omega

end Classes

/-! ## One use -/

/-- Whether a request for `capacity` takes a buffer that the pool keeps. -/
def reuses (capacity : Nat) (p : BlockPool) : Bool :=
  (classForRequest? capacity).any fun i => p.classes[i]?.any fun kept => !kept.isEmpty

/-- Whether the buffer `b`, when it is handed back, is kept. -/
def keeps (b : Buffer) (p : BlockPool) : Bool :=
  (classForBuffer? b.capacity).any fun i => p.classes[i]?.any (·.length < p.maxPerClass)

variable {p : BlockPool}

/-- A request takes a buffer of its class, where the pool `reuses` one, or reserves a new one that
is large enough. -/
theorem acquire_cases [Memory] (capacity : Nat) (p : BlockPool) :
    (∃ i b rest, p.reuses capacity = true ∧ classForRequest? capacity = some i ∧
      p.classes[i]? = some (b :: rest) ∧ p.acquire capacity =
        (.ok b, { p with classes := p.classes.set i rest, hits := p.hits + 1 })) ∨
    (p.reuses capacity = false ∧ ∃ size, capacity ≤ size ∧
      p.acquire capacity = (Buffer.reserve size, { p with misses := p.misses + 1 })) := by
  unfold acquire reuses
  cases served : classForRequest? capacity with
  | none => exact .inr ⟨rfl, capacity, Nat.le_refl capacity, rfl⟩
  | some i =>
    have meets : capacity ≤ classSize i := le_classSize_of_request served
    rcases found : p.classes[i]? with _ | _ | ⟨b, rest⟩
    · exact .inr ⟨by simp [found], classSize i, meets, by simp [found]⟩
    · exact .inr ⟨by simp [found], classSize i, meets, by simp [found]⟩
    · exact .inl ⟨i, b, rest, by simp [found], rfl, found, by simp [found]⟩

/-- A buffer that is handed back is put into its class without its content, where the pool `keeps`
it, or it is dropped. -/
theorem release_cases (b : Buffer) (p : BlockPool) :
    (∃ i kept, p.keeps b = true ∧ classForBuffer? b.capacity = some i ∧
      p.classes[i]? = some kept ∧ kept.length < p.maxPerClass ∧
      p.release b = { p with classes := p.classes.set i (b.clear :: kept) }) ∨
    (p.keeps b = false ∧ p.release b = p) := by
  unfold release keeps
  cases meets : classForBuffer? b.capacity with
  | none => exact .inr ⟨rfl, rfl⟩
  | some i =>
    dsimp only
    rw [List.modify_eq_set]
    cases found : p.classes[i]? with
    | none =>
      refine .inr ⟨by simp [found], ?_⟩
      rw [List.set_eq_of_length_le (List.getElem?_eq_none_iff.1 found)]
    | some kept =>
      by_cases room : kept.length < p.maxPerClass
      · exact .inl ⟨i, kept, by simp [found, room], rfl, found, room, by simp [room]⟩
      · refine .inr ⟨by simp [found, room], ?_⟩
        -- a full class is put back as it is
        obtain ⟨within, rfl⟩ := List.getElem?_eq_some_iff.1 found
        rw [Option.getD_some, if_neg room, List.set_getElem_self]

/-! ## The buffers -/

/-- There is a list of buffers for every class. No class has more of them than it may have, and each
meets the guarantee of its class. -/
structure Stocked (p : BlockPool) : Prop where
  size : p.classes.length = classCount
  room : ∀ (i : Nat) (kept : List Buffer), p.classes[i]? = some kept → kept.length ≤ p.maxPerClass
  meets : ∀ (i : Nat) (kept : List Buffer), p.classes[i]? = some kept →
    ∀ b ∈ kept, classSize i ≤ b.capacity

theorem stocked_new (maxPerClass : Nat) : (new maxPerClass).Stocked := by
  have unstocked (i : Nat) (kept : List Buffer)
      (found : (new maxPerClass).classes[i]? = some kept) : kept = [] := by
    exact (List.mem_replicate.1 (List.mem_of_getElem? found)).2
  refine ⟨List.length_replicate, ?_, ?_⟩
  · intro i kept found
    rw [unstocked i kept found]
    exact Nat.zero_le _
  · intro i kept found b mem
    rw [unstocked i kept found] at mem
    cases mem

/-- Other buffers in one class, which meet the same conditions. -/
theorem Stocked.set (stocked : p.Stocked) {i : Nat} {kept : List Buffer}
    (room : kept.length ≤ p.maxPerClass) (meets : ∀ b ∈ kept, classSize i ≤ b.capacity)
    (hits misses : UInt64) : Stocked ⟨p.classes.set i kept, p.maxPerClass, hits, misses⟩ := by
  have before_or : ∀ j found, (p.classes.set i kept)[j]? = some found →
      (i = j ∧ kept = found) ∨ p.classes[j]? = some found := by
    intro j found here
    rw [List.getElem?_set] at here
    split at here
    · next same =>
      split at here
      · exact .inl ⟨same, Option.some.inj here⟩
      · cases here
    · exact .inr here
  refine ⟨by rw [List.length_set, stocked.size], ?_, ?_⟩
  · intro j found here
    rcases before_or j found here with ⟨rfl, rfl⟩ | before
    · exact room
    · exact stocked.room j found before
  · intro j found here
    rcases before_or j found here with ⟨rfl, rfl⟩ | before
    · exact meets
    · exact stocked.meets j found before

theorem Stocked.acquire [Memory] (stocked : p.Stocked) (capacity : Nat) :
    (p.acquire capacity).2.Stocked := by
  obtain ⟨i, b, rest, -, -, found, acquired⟩ | ⟨-, size, -, acquired⟩ := acquire_cases capacity p
  · rw [acquired]
    -- one buffer less in a class that was in order before
    apply stocked.set
    · exact Nat.le_of_succ_le (stocked.room i _ found)
    · intro x mem
      exact stocked.meets i _ found x (List.mem_cons_of_mem b mem)
  · rw [acquired]
    exact ⟨stocked.size, stocked.room, stocked.meets⟩

theorem Stocked.release (stocked : p.Stocked) (b : Buffer) : (p.release b).Stocked := by
  obtain ⟨i, kept, -, classed, found, room, released⟩ | ⟨-, dropped⟩ := release_cases b p
  · rw [released]
    have fits : (b.clear :: kept).length ≤ p.maxPerClass := room
    apply stocked.set fits
    intro x mem
    rcases List.mem_cons.1 mem with rfl | mem
    · exact classSize_le_of_buffer classed
    · exact stocked.meets i kept found x mem
  · rw [dropped]
    exact stocked

/-- What a `Stocked` pool hands out is large enough: a kept buffer by the guarantee of its class, a
new one by its reservation. -/
theorem Stocked.capacity_of_acquire [Memory] (stocked : p.Stocked) {capacity : Nat} {b : Buffer}
    (acquired : (p.acquire capacity).1 = .ok b) : capacity ≤ b.capacity := by
  obtain ⟨i, c, rest, -, served, found, same⟩ | ⟨-, size, large, same⟩ := acquire_cases capacity p
  · rw [same] at acquired
    obtain rfl := Except.ok.inj acquired
    calc
      capacity ≤ classSize i := le_classSize_of_request served
      _ ≤ c.capacity := stocked.meets i _ found c List.mem_cons_self
  · rw [same] at acquired
    rw [Buffer.capacity_of_reserve acquired]
    exact large

/-! ## The counters -/

/-- What has been done with a pool since its counters were at zero. -/
structure Ledger where
  /-- Requests for a buffer, whether or not there was memory for one. -/
  requests : Nat := 0
  /-- Requests that took a buffer that the pool kept. -/
  reused : Nat := 0
  /-- Buffers that were handed back and kept. -/
  kept : Nat := 0

/-- The counters of the pool are those of the ledger, in words, and as many buffers are kept as the
ledger leaves over. -/
structure Ledger.Agrees (l : Ledger) (p : BlockPool) : Prop where
  hits : p.hits = .ofNat l.reused
  requests : p.hits + p.misses = .ofNat l.requests
  available : p.available + l.reused = l.kept

/-- Other buffers in one class change the number of buffers by as many as there are more or less. -/
theorem available_set {classes : List (List Buffer)} {i : Nat} {before : List Buffer}
    (found : classes[i]? = some before) (kept : List Buffer) (max : Nat) (hits misses : UInt64) :
    available ⟨classes.set i kept, max, hits, misses⟩ + before.length =
      available ⟨classes, max, hits, misses⟩ + kept.length := by
  induction classes generalizing i with
  | nil => cases found
  | cons first rest ih =>
    cases i with
    | zero =>
      obtain rfl := Option.some.inj found
      simp only [available, List.set_cons_zero, List.foldr_cons]
      omega
    | succ i =>
      have others := ih found
      simp only [available, List.set_cons_succ, List.foldr_cons] at others ⊢
      omega

namespace Ledger

variable {l : Ledger}

theorem agrees_new (maxPerClass : Nat) : Agrees {} (new maxPerClass) := ⟨rfl, rfl, rfl⟩

/-- Another request, which took a buffer that was kept. -/
theorem Agrees.hit (agrees : l.Agrees p) {i : Nat} {b : Buffer} {rest : List Buffer}
    (found : p.classes[i]? = some (b :: rest)) :
    Agrees { l with requests := l.requests + 1, reused := l.reused + 1 }
      { p with classes := p.classes.set i rest, hits := p.hits + 1 } := by
  have total := available_set found rest p.maxPerClass (p.hits + 1) p.misses
  have balance := agrees.available
  refine ⟨?_, ?_, ?_⟩
  · rw [agrees.hits, UInt64.ofNat_add]
    rfl
  · rw [UInt64.ofNat_add, ← agrees.requests]
    change p.hits + 1 + p.misses = p.hits + p.misses + 1
    rw [UInt64.add_assoc, UInt64.add_comm 1, UInt64.add_assoc]
  · rw [List.length_cons] at total
    change _ = p.available + _ at total
    change BlockPool.available _ + (l.reused + 1) = l.kept
    omega

/-- Another request, which had to be met by a new buffer. -/
theorem Agrees.miss (agrees : l.Agrees p) :
    Agrees { l with requests := l.requests + 1 } { p with misses := p.misses + 1 } := by
  refine ⟨agrees.hits, ?_, agrees.available⟩
  rw [UInt64.ofNat_add, ← agrees.requests, UInt64.add_assoc]
  rfl

/-- Another buffer that was kept. -/
theorem Agrees.keep (agrees : l.Agrees p) {i : Nat} {kept : List Buffer}
    (found : p.classes[i]? = some kept) (b : Buffer) :
    Agrees { l with kept := l.kept + 1 } { p with classes := p.classes.set i (b :: kept) } := by
  have total := available_set found (b :: kept) p.maxPerClass p.hits p.misses
  have balance := agrees.available
  refine ⟨agrees.hits, agrees.requests, ?_⟩
  rw [List.length_cons] at total
  change _ = p.available + _ at total
  change BlockPool.available _ + l.reused = l.kept + 1
  omega

end Ledger

end BlockPool

/-! ## Runs -/

/-- What can be done with a pool. -/
inductive Pool.Use where
  /-- Ask for a buffer of `capacity`. -/
  | acquire (capacity : Nat)
  /-- Hand the buffer `b` back, of any capacity and with whatever is in it. -/
  | release (b : Buffer)
  /-- Read the counters. -/
  | stats
  /-- Forget the buffers and the counters. -/
  | reset

/-- The pool after the use `u`. -/
def Pool.after [Memory] (u : Use) (pool : Pool) : Pool :=
  match u with
  | .acquire capacity => (pool.acquire capacity).2
  | .release b => pool.release b
  | .stats => pool
  | .reset => pool.reset

namespace BlockPool

open Pool (Use)

/-- The block pool after the use `u`. -/
def after [Memory] (u : Use) (p : BlockPool) : BlockPool :=
  match u with
  | .acquire capacity => (p.acquire capacity).2
  | .release b => p.release b
  | .stats => p
  | .reset => .new p.maxPerClass

theorem block_after [Memory] (u : Use) (p : BlockPool) :
    (Pool.block p).after u = .block (p.after u) := by
  cases u <;> rfl

/-- The ledger with the use `u` of the pool entered. -/
def Ledger.enter (u : Use) (p : BlockPool) (l : Ledger) : Ledger :=
  match u with
  | .acquire capacity =>
    { l with requests := l.requests + 1, reused := l.reused + (p.reuses capacity).toNat }
  | .release b => { l with kept := l.kept + (p.keeps b).toNat }
  | .stats => l
  | .reset => {}

/-- The pool after several uses, and the ledger of them. -/
def run [Memory] : List Use → BlockPool → Ledger → BlockPool × Ledger
  | [], p, l => (p, l)
  | u :: rest, p, l => run rest (p.after u) (l.enter u p)

theorem foldl_after [Memory] (uses : List Use) (p : BlockPool) (l : Ledger) :
    uses.foldl (fun (pool : Pool) u => pool.after u) (.block p) = .block (run uses p l).1 := by
  induction uses generalizing p l with
  | nil => rfl
  | cons u rest ih => rw [List.foldl_cons, block_after, ih _ (l.enter u p), run]

/-- What holds of a pool `p` and its ledger `l` at any time. -/
structure InOrder (maxPerClass : Nat) (p : BlockPool) (l : Ledger) : Prop where
  bound : p.maxPerClass = maxPerClass
  clean : p.Clean
  stocked : p.Stocked
  agrees : l.Agrees p

variable {maxPerClass : Nat} {l : Ledger}

theorem inOrder_new (maxPerClass : Nat) : InOrder maxPerClass (new maxPerClass) {} :=
  ⟨rfl, clean_new maxPerClass, stocked_new maxPerClass, Ledger.agrees_new maxPerClass⟩

/-- One use, which leaves the pool and the ledger `InOrder`. -/
theorem InOrder.after [Memory] (order : InOrder maxPerClass p l) (u : Use) :
    InOrder maxPerClass (p.after u) (l.enter u p) := by
  have ⟨bound, clean, stocked, agrees⟩ := order
  cases u with
  -- a buffer comes from the stock, or is reserved
  | acquire capacity =>
    have sound := stocked.acquire capacity
    have bare : (p.acquire capacity).2.Clean := clean.acquire
    change InOrder maxPerClass (p.acquire capacity).2 _
    obtain ⟨i, b, rest, reused, -, found, acquired⟩ | ⟨fresh, size, -, acquired⟩ :=
      acquire_cases capacity p
    · rw [acquired] at sound bare ⊢
      simp only [Ledger.enter, reused]
      exact ⟨bound, bare, sound, agrees.hit found⟩
    · rw [acquired] at sound bare ⊢
      simp only [Ledger.enter, fresh]
      exact ⟨bound, bare, sound, agrees.miss⟩
  -- a buffer goes into the stock, or is dropped and leaves all as it was
  | release b =>
    have sound := stocked.release b
    have bare := clean.release b
    change InOrder maxPerClass (p.release b) _
    obtain ⟨i, kept, keeps, -, found, -, released⟩ | ⟨drops, dropped⟩ := release_cases b p
    · rw [released] at sound bare ⊢
      simp only [Ledger.enter, keeps]
      exact ⟨bound, bare, sound, agrees.keep found b.clear⟩
    · rw [dropped]
      simp only [Ledger.enter, drops]
      exact order
  | stats => exact order
  | reset =>
    rw [← bound]
    exact inOrder_new p.maxPerClass

/-- Any number of `uses`, by induction from one. -/
theorem InOrder.run [Memory] (order : InOrder maxPerClass p l) (uses : List Use) :
    InOrder maxPerClass (run uses p l).1 (run uses p l).2 := by
  induction uses generalizing p l with
  | nil => exact order
  | cons u rest ih => exact ih (order.after u)

/-- After any `uses` of a new block pool no class holds more buffers than `maxPerClass`, the buffers
in it have no content and at least its capacity, and whoever asks for a buffer and is given one is
given one without content that is large enough. The requests since the last reset are counted as
hits and misses, and what was kept since then and has not been given out again is available. A size
class is one of those that there are, and its exponent is what a request is rounded up to, or a
buffer down. -/
theorem stocked_and_counted [Memory] (maxPerClass : Nat) (uses : List Use) :
    let p := (run uses (new maxPerClass) {}).1
    let l := (run uses (new maxPerClass) {}).2
    uses.foldl (fun (pool : Pool) u => pool.after u) (.block (new maxPerClass)) = .block p ∧
      (∀ (i : Nat) (kept : List Buffer), p.classes[i]? = some kept → kept.length ≤ maxPerClass ∧
        ∀ b ∈ kept, b.content = [] ∧ 64 * 2 ^ i ≤ b.capacity) ∧
      (∀ capacity b, ((Pool.block p).acquire capacity).1 = .ok b →
        b.content = [] ∧ capacity ≤ b.capacity) ∧
      (Pool.block p).stats.hits = .ofNat l.reused ∧
      (Pool.block p).stats.hits + (Pool.block p).stats.misses = .ofNat l.requests ∧
      (Pool.block p).stats.available + l.reused = l.kept ∧
      (∀ capacity i, classForRequest? capacity = some i ↔
        i < p.classes.length ∧ requestExponent capacity = i + 6) ∧
      ∀ capacity i, classForBuffer? capacity = some i ↔
        i < p.classes.length ∧ 64 ≤ capacity ∧ bufferExponent capacity = i + 6 := by
  intro p l
  -- the invariant of the run; what is claimed is read off its four parts
  have order : InOrder maxPerClass p l := (inOrder_new maxPerClass).run uses
  refine ⟨foldl_after uses _ _, ?_, ?_, order.agrees.hits, order.agrees.requests,
    order.agrees.available, ?_, ?_⟩
  · intro i kept found
    refine ⟨order.bound ▸ order.stocked.room i kept found, ?_⟩
    intro b mem
    have bare := order.clean kept (List.mem_of_getElem? found) b mem
    exact ⟨bare, order.stocked.meets i kept found b mem⟩
  · intro capacity b acquired
    exact ⟨order.clean.content_of_acquire acquired, order.stocked.capacity_of_acquire acquired⟩
  · intro capacity i
    rw [order.stocked.size]
    exact classForRequest?_eq_some_iff
  · intro capacity i
    rw [order.stocked.size]
    exact classForBuffer?_eq_some_iff

open scoped Memory.Plenty

/-- A buffer just below the second class is kept in the first one, so a request just above the first
class does not take it. -/
example :
    let p := (run [.release ⟨127, [1]⟩, .acquire 65, .acquire 64] (new 1) {}).1
    (p.hits, p.misses, p.available) = (1, 1, 0) := by
  decide

end BlockPool

end Parcel
