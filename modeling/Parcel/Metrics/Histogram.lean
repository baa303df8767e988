import Parcel.Number.Binary

/-!
# Latency histograms

A histogram counts all samples, adds them up and keeps the greatest; for percentiles it keeps a
window of the most recent ones. Counting, adding and the cursor of the window wrap at 64 bits.

## Main definitions

* `Parcel.Histogram`, `Histogram.record`
* `Histogram.percentile` — the sample at a rank of the sorted window
* `Histogram.summary`
-/

namespace Parcel

/-- The most recent samples, and totals over all of them. -/
structure Histogram where
  /-- The window; a full one is overwritten in turn. -/
  window : Array UInt64
  /-- The cursor, which tells the place in the window that is overwritten next. -/
  next : UInt64
  /-- Number of samples. -/
  count : UInt64
  /-- Sum of the samples. -/
  sum : UInt64
  /-- Greatest sample. -/
  max : UInt64
  deriving DecidableEq

namespace Histogram

/-- How many samples the window holds. -/
def windowSize : Nat := 1024

/-- A histogram without samples. -/
def empty : Histogram := ⟨#[], 0, 0, 0, 0⟩

instance : Inhabited Histogram := ⟨empty⟩

/-- Takes one `sample`. -/
def record (sample : UInt64) (h : Histogram) : Histogram where
  window :=
    if h.window.size < windowSize then h.window.push sample
    else h.window.setIfInBounds (h.next.toNat % windowSize) sample
  next := h.next + 1
  count := h.count + 1
  sum := h.sum + sample
  max := if h.max < sample then sample else h.max

/-- The least integer not below `± mantissa * 2 ^ exponent`, or zero if that is negative. -/
def ceiling (negative : Bool) (mantissa : Nat) (exponent : Int) : Nat :=
  if negative then 0
  else if 0 ≤ exponent then mantissa * Nat.pow 2 exponent.toNat
  else (mantissa + Nat.pow 2 (-exponent).toNat - 1) / Nat.pow 2 (-exponent).toNat

/-- The rank of a quantile among `n` samples: the product rounded to a double, then up to an
integer, and held between 1 and `n`. What is not a number has rank 1. -/
def rank (n quantile : Nat) : Nat :=
  let unbounded := match Binary.double.read quantile with
    | .nan => 0
    | .infinite negative => if negative then 0 else n
    | .finite negative mantissa exponent =>
      match Binary.double.read (Binary.double.nearestScaled (n * mantissa) exponent) with
      | .finite _ mantissa exponent => ceiling negative mantissa exponent
      | _ => if negative then 0 else n
  Max.max 1 (Min.min unbounded n)

/-- The sample of the window below which the part `quantile` of the window lies. -/
def percentile (quantile : Nat) (h : Histogram) : UInt64 :=
  let sorted := h.window.toList.mergeSort (· ≤ ·)
  (sorted[rank sorted.length quantile - 1]?).getD 0

/-- The mean of all samples, rounded down. -/
def average (h : Histogram) : UInt64 := if h.count = 0 then 0 else h.sum / h.count

/-- What a histogram reports. -/
structure Summary where
  /-- Median. -/
  p50 : UInt64
  /-- 95th percentile. -/
  p95 : UInt64
  /-- 99th percentile. -/
  p99 : UInt64
  /-- 99.9th percentile. -/
  p999 : UInt64
  /-- Greatest sample. -/
  max : UInt64
  /-- Mean. -/
  average : UInt64
  /-- Number of samples. -/
  count : UInt64
  deriving DecidableEq, Inhabited

/-- The double nearest to so many thousandths. -/
def thousandths (n : Nat) : Nat := Binary.double.nearestDecimal n (-3)

/-- What a histogram reports now. -/
def summary (h : Histogram) : Summary where
  p50 := h.percentile (thousandths 500)
  p95 := h.percentile (thousandths 950)
  p99 := h.percentile (thousandths 990)
  p999 := h.percentile (thousandths 999)
  max := h.max
  average := h.average
  count := h.count

end Histogram

end Parcel
