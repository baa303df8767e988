import Parcel.Metrics.Registry
import Parcel.Proofs.Metrics.Rank
import Parcel.Proofs.Metrics.Window

/-!
# What the registry knows of each category

Each category has a counter, and all but copies have a histogram. Both are changed only by what is
recorded for that category, and by a reset, so the registry is as many separate histograms, and the
counter of a category is the count of its histogram.

## Main definitions

* `Histogram.Reports` — what a histogram tells about a list of samples
* `Metrics.Use`, `Metrics.run` — what can be done with a registry
* `Metrics.Use.on?` — what a use means for the histogram of one category

## Main results

* `Histogram.Covers.reports` — what follows from what a histogram holds
* `Metrics.after_other` — a use of one category leaves the others as they are
* `Metrics.histogram?_run`, `Metrics.count_run` — a category after any number of uses
* `Metrics.reports_and_apart`
-/

namespace Parcel

/-! ## What a histogram tells -/

namespace Histogram

variable {xs : List UInt64} {h : Histogram}

/-- What a histogram tells about the samples `xs` since the last reset. The window has the last 1024
of them, or all if there are fewer. Count and sum are exact up to the size of a word. A percentile
is the sample of the window at the rank of the quantile. -/
structure Reports (xs : List UInt64) (h : Histogram) : Prop where
  window : h.window.toList.Perm (xs.rtake 1024)
  count : h.count.toNat = xs.length % 2 ^ 64
  sum : h.sum.toNat = (xs.map UInt64.toNat).sum % 2 ^ 64
  le_max : ∀ x ∈ xs, x ≤ h.max
  max_mem : xs ≠ [] → h.max ∈ xs
  max_eq : xs = [] → h.max = 0
  average_le_max : xs.length < 2 ^ 64 → h.average ≤ h.max
  percentile_eq : xs = [] → ∀ quantile, h.percentile quantile = 0
  percentile_at : xs ≠ [] → ∀ quantile, ∃ r : ℕ,
    let sorted := (xs.rtake 1024).mergeSort (· ≤ ·)
    (r : ℕ∞) = Max.max 1 (Min.min
      (Binary.double.multiple sorted.length (Binary.double.read quantile)).ceil sorted.length) ∧
    sorted[r - 1]? = some (h.percentile quantile)
  percentile_mem : xs ≠ [] → ∀ quantile, h.percentile quantile ∈ h.window.toList

/-- Sorting forgets the order. -/
theorem mergeSort_eq_of_perm {xs ys : List UInt64} (same : xs.Perm ys) :
    xs.mergeSort (· ≤ ·) = ys.mergeSort (· ≤ ·) := by
  have sorted (zs : List UInt64) : (zs.mergeSort (· ≤ ·)).Pairwise (· ≤ ·) := by
    have pairwise : (zs.mergeSort (· ≤ ·)).Pairwise fun a b => decide (a ≤ b) = true :=
      List.pairwise_mergeSort (by simpa using fun _ _ _ => UInt64.le_trans)
        (by simpa using UInt64.le_total) zs
    simpa using pairwise
  have perm : (xs.mergeSort (· ≤ ·)).Perm (ys.mergeSort (· ≤ ·)) :=
    (List.mergeSort_perm xs _).trans (same.trans (List.mergeSort_perm ys _).symm)
  exact perm.eq_of_pairwise (fun _ _ _ _ => UInt64.le_antisymm) (sorted xs) (sorted ys)

theorem one_le_rank (n quantile : Nat) : 1 ≤ rank n quantile := Nat.le_max_left _ _

theorem rank_le {n : Nat} (positive : 1 ≤ n) (quantile : Nat) : rank n quantile ≤ n :=
  Nat.max_le.2 ⟨positive, Nat.min_le_right _ _⟩

/-- The percentile of what `Covers` samples is the sample at the rank of the quantile. -/
theorem Covers.percentile_at (covers : Covers xs h) (taken : xs ≠ []) (quantile : Nat) :
    let sorted := (xs.rtake windowSize).mergeSort (· ≤ ·)
    sorted[rank sorted.length quantile - 1]? = some (h.percentile quantile) := by
  intro sorted
  have length : 1 ≤ sorted.length := by
    have positive := List.length_pos_of_ne_nil taken
    have one : 1 ≤ windowSize := by decide
    rw [List.length_mergeSort, length_rtake]
    exact Nat.le_min.2 ⟨positive, one⟩
  have within : rank sorted.length quantile - 1 < sorted.length := by
    have low := one_le_rank sorted.length quantile
    have high := rank_le length quantile
    omega
  rw [percentile, mergeSort_eq_of_perm covers.perm, List.getElem?_eq_getElem within,
    Option.getD_some]

/-- What a histogram `Reports` follows from what it `Covers`. -/
theorem Covers.reports (covers : Covers xs h) : Reports xs h where
  window := covers.perm
  count := by rw [covers.count, UInt64.toNat_ofNat']
  sum := by rw [covers.sum, UInt64.toNat_ofNat']
  le_max := covers.le_max
  max_mem := covers.max_mem
  max_eq := covers.max_eq
  average_le_max := covers.average_le_max
  percentile_eq := by
    rintro rfl quantile
    have none : h.window.toList = [] := List.perm_nil.1 covers.perm
    rw [percentile, none, List.mergeSort_nil]
    rfl
  percentile_at := fun taken quantile =>
    ⟨_, rank_eq _ quantile, covers.percentile_at taken quantile⟩
  percentile_mem := by
    intro taken quantile
    have mem := List.mem_of_getElem? (covers.percentile_at taken quantile)
    exact covers.perm.mem_iff.2 ((List.mergeSort_perm _ _).mem_iff.1 mem)

end Histogram

/-! ## The registry -/

namespace Metrics

/-- What can be done with a registry. -/
inductive Use where
  /-- Count the operation `op` and take its `latency`. -/
  | record (op : Operation) (latency : UInt64)
  /-- Read the counter of the category `op` and what its histogram tells. -/
  | query (op : Operation)
  /-- Forget everything. -/
  | reset

/-- The registry after the use `u`. -/
def after (u : Use) (m : Metrics) : Metrics :=
  match u with
  | .record op latency => m.record op latency
  | .query _ => m
  | .reset => m.reset

/-- A new registry after several uses. -/
def run (uses : List Use) : Metrics := uses.foldl (fun m u => m.after u) .empty

/-- What a use means for the histogram of a category, if it means anything. -/
def Use.on? (op : Operation) : Use → Option Histogram.Use
  | .record other latency => if other = op then some (.record latency) else none
  | .query _ => none
  | .reset => some .reset

variable {m : Metrics} {op : Operation}

/-- A use that means nothing for the category `op` leaves it as it is. -/
theorem after_other {u : Use} (other : u.on? op = none) :
    (m.after u).count op = m.count op ∧ (m.after u).histogram? op = m.histogram? op := by
  cases u with
  | record used latency =>
    have different : used ≠ op := by simpa [Use.on?] using other
    cases used <;> cases op <;> first | exact absurd rfl different | exact ⟨rfl, rfl⟩
  | query used => exact ⟨rfl, rfl⟩
  | reset => cases other

/-- A use that means something for the histogram of the category `op` changes it by that. -/
theorem histogram?_after {u : Use} {v : Histogram.Use} (used : u.on? op = some v) :
    (m.after u).histogram? op = (m.histogram? op).map (·.after v) := by
  cases u with
  | record other latency =>
    obtain ⟨rfl, rfl⟩ : other = op ∧ .record latency = v := by simpa [Use.on?] using used
    cases other <;> rfl
  | query other => cases used
  | reset =>
    obtain rfl : .reset = v := by simpa [Use.on?] using used
    cases op <;> rfl

/-- The counter of the category `op` goes up by one with each sample. -/
theorem count_after {u : Use} {v : Histogram.Use} {xs : List UInt64} (used : u.on? op = some v)
    (counted : m.count op = .ofNat xs.length) :
    (m.after u).count op = .ofNat (v.extend xs).length := by
  cases u with
  | record other latency =>
    obtain ⟨rfl, rfl⟩ : other = op ∧ .record latency = v := by simpa [Use.on?] using used
    have up : (m.after (.record other latency)).count other = m.count other + 1 := by
      cases other <;> rfl
    rw [up, counted, Histogram.Use.extend, List.length_append, UInt64.ofNat_add]
    rfl
  | query other => cases used
  | reset =>
    obtain rfl : .reset = v := by simpa [Use.on?] using used
    cases op <;> rfl

/-- The histogram of the category `op` is one that has been used for that category only. -/
theorem histogram?_run (timed : op ≠ .copy) (uses : List Use) :
    (run uses).histogram? op = some (.run (uses.filterMap (Use.on? op))) := by
  -- along the uses, one that means nothing for the category is left out on both sides
  have all : ∀ m h, histogram? m op = some h →
      (uses.foldl (fun m u => m.after u) m).histogram? op =
        some ((uses.filterMap (Use.on? op)).foldl (fun h v => h.after v) h) := by
    induction uses with
    | nil => exact fun _ _ found => found
    | cons u uses ih =>
      intro m h found
      rw [List.foldl_cons]
      cases used : u.on? op with
      | none =>
        rw [List.filterMap_cons_none used]
        exact ih _ _ ((after_other used).2.trans found)
      | some v =>
        rw [List.filterMap_cons_some used]
        refine ih _ _ ?_
        rw [histogram?_after used, found, Option.map_some]
  refine all .empty .empty ?_
  cases op with
  | copy => exact absurd rfl timed
  | _ => rfl

/-- The counter of the category `op` counts what was recorded for it since the last reset. -/
theorem count_run (op : Operation) (uses : List Use) :
    (run uses).count op =
      .ofNat (Histogram.sinceReset (uses.filterMap (Use.on? op))).length := by
  -- the samples so far are carried along, since a reset forgets them
  have all : ∀ m xs, count m op = .ofNat xs.length →
      (uses.foldl (fun m u => m.after u) m).count op =
        .ofNat ((uses.filterMap (Use.on? op)).foldl Histogram.Use.extend xs).length := by
    induction uses with
    | nil => exact fun _ _ counted => counted
    | cons u uses ih =>
      intro m xs counted
      rw [List.foldl_cons]
      cases used : u.on? op with
      | none =>
        rw [List.filterMap_cons_none used]
        exact ih _ _ ((after_other used).1.trans counted)
      | some v =>
        rw [List.filterMap_cons_some used]
        exact ih _ _ (count_after used counted)
  refine all .empty [] ?_
  cases op <;> rfl

/-- A histogram `Reports` the samples recorded since its last reset, as they are. In a registry, a
category is changed only by recording for it and by a reset. So after any number of `uses` the
histogram of a category is the one that all that was recorded for this category leads to, and the
counter is its count. -/
theorem reports_and_apart :
    (∀ uses : List Histogram.Use, (Histogram.run uses).Reports (Histogram.sinceReset uses)) ∧
    (∀ (m : Metrics) (op other : Operation) (latency : UInt64), other ≠ op →
      (m.after (.record op latency)).count other = m.count other ∧
      (m.after (.record op latency)).histogram? other = m.histogram? other) ∧
    (∀ (m : Metrics) (op other : Operation),
      (m.after (.query op)).count other = m.count other ∧
      (m.after (.query op)).histogram? other = m.histogram? other) ∧
    ∀ (uses : List Use) (op : Operation), op ≠ .copy → ∃ h, (run uses).histogram? op = some h ∧
      h = .run (uses.filterMap (Use.on? op)) ∧ (run uses).count op = h.count := by
  refine ⟨fun uses => (Histogram.covers_run uses).reports, ?_, fun m op other => ⟨rfl, rfl⟩, ?_⟩
  · intro m op other latency different
    exact after_other (by simpa [Use.on?] using different.symm)
  · intro uses op timed
    refine ⟨_, histogram?_run timed uses, rfl, ?_⟩
    rw [count_run, (Histogram.covers_run _).count]

end Metrics

end Parcel
