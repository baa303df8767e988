import Mathlib.Algebra.Order.BigOperators.Group.List
import Mathlib.Algebra.Order.Ring.Nat
import Mathlib.Data.List.DropRight
import Mathlib.Data.List.Rotate
import Parcel.Metrics.Histogram

/-!
# The window holds the most recent samples

The window of a histogram is a ring: while there is room a sample is appended, and after that each
sample takes the place that the cursor points to. Read from that place on, the window shows the most
recent samples in the order in which they came, and this is so whether or not the ring has closed.
The totals are those of all samples since the last reset, up to the size of a word.

## Main definitions

* `Histogram.Use`, `Histogram.run` — what can be done with a histogram
* `Histogram.sinceReset` — the samples that count
* `Histogram.Covers` — what a histogram holds of a list of samples

## Main results

* `Histogram.rotate_set_next` — one turn of the ring
* `Histogram.Covers.record` — one more sample
* `Histogram.covers_run` — any number of uses
* `Histogram.Covers.average_le_max`
-/

namespace Parcel.Histogram

/-! ## Uses -/

/-- What can be done with a histogram. -/
inductive Use where
  /-- Take one `sample`. -/
  | record (sample : UInt64)
  /-- Forget all samples. -/
  | reset

/-- The histogram after the use `u`. -/
def after (u : Use) (h : Histogram) : Histogram :=
  match u with
  | .record sample => h.record sample
  | .reset => .empty

/-- A new histogram after several uses. -/
def run (uses : List Use) : Histogram := uses.foldl (fun h u => h.after u) .empty

/-- The samples after a use, where those before it are given. -/
def Use.extend (xs : List UInt64) : Use → List UInt64
  | .record sample => xs ++ [sample]
  | .reset => []

/-- The samples recorded since the last reset, in the order in which they came. -/
def sinceReset (uses : List Use) : List UInt64 := uses.foldl Use.extend []

/-! ## The ring -/

/-- Overwriting the element that the cursor `s` points to and moving the cursor on is, in the order
that starts at the cursor, to drop the first element and to append `x`. -/
theorem rotate_set_next {α : Type} {w : List α} {s : Nat} (within : s < w.length) (x : α) :
    (w.set s x).rotate ((s + 1) % w.length) = (w.rotate s).tail ++ [x] := by
  have around := List.rotate_mod (w.set s x) (s + 1)
  rw [List.length_set] at around
  have kept : (w.set s x).drop (s + 1) = w.drop (s + 1) := List.drop_set_of_lt (Nat.lt_succ_self s)
  have written : (w.set s x).take (s + 1) = w.take s ++ [x] := by
    rw [List.take_succ_eq_append_getElem (by simpa using within), List.take_set_of_le le_rfl,
      List.getElem_set_self]
  have next : w.drop s = w[s] :: w.drop (s + 1) := List.drop_eq_getElem_cons within
  calc
    (w.set s x).rotate ((s + 1) % w.length) = (w.set s x).rotate (s + 1) := around
    _ = w.drop (s + 1) ++ (w.take s ++ [x]) := by
      rw [List.rotate_eq_drop_append_take (by rw [List.length_set]; exact within), kept, written]
    _ = (w.drop s ++ w.take s).tail ++ [x] := by
      rw [next, List.cons_append, List.tail_cons, List.append_assoc]
    _ = (w.rotate s).tail ++ [x] := by rw [List.rotate_eq_drop_append_take within.le]

/-- What a histogram holds of the samples `xs` that it has taken. -/
structure Covers (xs : List UInt64) (h : Histogram) : Prop where
  ring : h.window.toList.rotate (xs.length % windowSize) = xs.rtake windowSize
  next : h.next = .ofNat xs.length
  count : h.count = .ofNat xs.length
  sum : h.sum = .ofNat (xs.map UInt64.toNat).sum
  le_max : ∀ x ∈ xs, x ≤ h.max
  max_mem : xs ≠ [] → h.max ∈ xs
  max_eq : xs = [] → h.max = 0

variable {xs : List UInt64} {h : Histogram}

theorem covers_empty : Covers [] empty := ⟨rfl, rfl, rfl, rfl, nofun, nofun, fun _ => rfl⟩

theorem length_rtake {n : Nat} : (xs.rtake n).length = min xs.length n := by
  rw [List.rtake, List.length_drop]
  omega

/-- The window has as many samples as there are, until it has `windowSize`. -/
theorem Covers.size_eq (covers : Covers xs h) : h.window.size = min xs.length windowSize := by
  have same := congrArg List.length covers.ring
  rwa [List.length_rotate, length_rtake, h.window.length_toList] at same

/-- The place that a full window is overwritten at. -/
theorem Covers.cursor_eq (covers : Covers xs h) :
    h.next.toNat % windowSize = xs.length % windowSize := by
  rw [covers.next, UInt64.toNat_ofNat']
  -- the word wraps at a multiple of the size of the window
  exact Nat.mod_mod_of_dvd _ (by decide)

theorem Covers.ring_record (covers : Covers xs h) (sample : UInt64) :
    (h.record sample).window.toList.rotate ((xs ++ [sample]).length % windowSize) =
      (xs ++ [sample]).rtake windowSize := by
  have size := covers.size_eq
  have ring := covers.ring
  rw [List.length_append, List.length_singleton]
  change (if h.window.size < windowSize then h.window.push sample
    else h.window.setIfInBounds (h.next.toNat % windowSize) sample).toList.rotate _ = _
  split
  · next room =>
    -- the window has all samples, from its start on
    have short : xs.length < windowSize := by omega
    have all : h.window.toList = xs := by
      rw [List.rtake, Nat.sub_eq_zero_of_le short.le, Nat.mod_eq_of_lt short] at ring
      have length : xs.length = h.window.toList.length := by
        rw [h.window.length_toList]
        omega
      rwa [length, List.rotate_length, List.drop_zero] at ring
    rw [Array.toList_push, all, List.rtake, List.length_append, List.length_singleton,
      Nat.sub_eq_zero_of_le short, List.drop_zero]
    rcases Nat.lt_or_ge (xs.length + 1) windowSize with shorter | full
    · rw [Nat.mod_eq_of_lt shorter, ← List.length_singleton (a := sample), ← List.length_append,
        List.rotate_length]
    · have same : xs.length + 1 = windowSize := by omega
      rw [same, Nat.mod_self, List.rotate_zero]
  · next full =>
    have long : windowSize ≤ xs.length := by omega
    have length : h.window.toList.length = windowSize := by
      rw [h.window.length_toList]
      omega
    have positive : 0 < windowSize := by decide
    have within : xs.length % windowSize < h.window.toList.length := by
      rw [length]
      exact Nat.mod_lt _ positive
    have turned := rotate_set_next within sample
    rw [length, Nat.mod_add_mod, ring] at turned
    rw [Array.toList_setIfInBounds, covers.cursor_eq, turned, List.rtake, List.tail_drop,
      List.rtake, List.length_append, List.length_singleton,
      List.drop_append_of_le_length (by omega), Nat.sub_add_comm long]

/-- One more `sample`. -/
theorem Covers.record (covers : Covers xs h) (sample : UInt64) :
    Covers (xs ++ [sample]) (h.record sample) where
  ring := covers.ring_record sample
  next := by
    rw [List.length_append, UInt64.ofNat_add, ← covers.next]
    rfl
  count := by
    rw [List.length_append, UInt64.ofNat_add, ← covers.count]
    rfl
  sum := by
    rw [List.map_append, List.sum_append, UInt64.ofNat_add, ← covers.sum]
    simp [Histogram.record]
  le_max := by
    intro x mem
    have grown : h.max ≤ (h.record sample).max ∧ sample ≤ (h.record sample).max := by
      simp only [Histogram.record]
      split
      · next less => exact ⟨UInt64.le_of_lt less, UInt64.le_refl _⟩
      · next not => exact ⟨UInt64.le_refl _, UInt64.not_lt.1 not⟩
    rcases List.mem_append.1 mem with before | here
    · exact UInt64.le_trans (covers.le_max x before) grown.1
    · rw [List.mem_singleton.1 here]
      exact grown.2
  max_mem := by
    intro _
    simp only [Histogram.record]
    split
    · exact List.mem_append_right _ List.mem_cons_self
    · next not =>
      by_cases first : xs = []
      · -- the first sample is not above zero, so it is zero
        rw [covers.max_eq first] at not ⊢
        have zero : sample = 0 := by
          simpa [UInt64.lt_iff_toNat_lt, ← UInt64.toNat_inj] using not
        simp [zero]
      · exact List.mem_append_left _ (covers.max_mem first)
  max_eq := by simp

/-- One use. -/
theorem Covers.after (covers : Covers xs h) (u : Use) : Covers (u.extend xs) (h.after u) := by
  cases u with
  | record sample => exact covers.record sample
  | reset => exact covers_empty

/-- Any number of `uses`, by induction from one. -/
theorem covers_run (uses : List Use) : Covers (sinceReset uses) (run uses) := by
  -- a run may start from any histogram that covers some samples
  have all : ∀ xs h, Covers xs h →
      Covers (uses.foldl Use.extend xs) (uses.foldl (fun h u => h.after u) h) := by
    induction uses with
    | nil => exact fun _ _ covers => covers
    | cons u uses ih => exact fun _ _ covers => ih _ _ (covers.after u)
  exact all [] .empty covers_empty

/-- The samples in the window are the most recent of `xs`, in some order. -/
theorem Covers.perm (covers : Covers xs h) : h.window.toList.Perm (xs.rtake windowSize) := by
  rw [← covers.ring]
  exact (List.rotate_perm _ _).symm

/-! ## The mean -/

/-- Samples add up to at most as many times a `bound`. -/
theorem sum_toNat_le {bound : UInt64} (below : ∀ x ∈ xs, x ≤ bound) :
    (xs.map UInt64.toNat).sum ≤ xs.length * bound.toNat := by
  have each : ∀ n ∈ xs.map UInt64.toNat, n ≤ bound.toNat := by
    intro n mem
    obtain ⟨x, inside, rfl⟩ := List.mem_map.1 mem
    exact UInt64.le_iff_toNat_le.1 (below x inside)
  simpa using List.sum_le_card_nsmul _ _ each

/-- The mean is at most the greatest sample, as long as the count has not wrapped; that the sum may
have wrapped only makes it less. -/
theorem Covers.average_le_max (covers : Covers xs h) (short : xs.length < 2 ^ 64) :
    h.average ≤ h.max := by
  have count : h.count.toNat = xs.length := by
    rw [covers.count, UInt64.toNat_ofNat', Nat.mod_eq_of_lt short]
  have sum : h.sum.toNat ≤ xs.length * h.max.toNat := by
    rw [covers.sum, UInt64.toNat_ofNat']
    exact (Nat.mod_le _ _).trans (sum_toNat_le covers.le_max)
  rw [average]
  split
  · exact UInt64.zero_le
  · rw [UInt64.le_iff_toNat_le, UInt64.toNat_div, count]
    exact Nat.div_le_of_le_mul sum

end Parcel.Histogram
