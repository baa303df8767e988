import Parcel.Metrics.Histogram

/-!
# The metrics registry

Operations fall into five categories. The registry counts the operations of each and keeps a
histogram of their latencies, copies apart.

## Main definitions

* `Parcel.Operation` — the categories
* `Parcel.Metrics`, `Metrics.record`, `Metrics.reset`
-/

namespace Parcel

/-- The categories of operations. -/
inductive Operation where
  /-- Looking values up. -/
  | read
  /-- Changing values. -/
  | write
  /-- Writing a format. -/
  | serialize
  /-- Reading a format. -/
  | deserialize
  /-- Copying a container. -/
  | copy
  deriving DecidableEq, Inhabited

namespace Operation

/-- All categories. -/
def all : List Operation := [read, write, serialize, deserialize, copy]

/-- The name of a category. -/
def name : Operation → String
  | read => "read"
  | write => "write"
  | serialize => "serialize"
  | deserialize => "deserialize"
  | copy => "copy"

/-- The name of a category at the start of a sentence. -/
def title : Operation → String
  | read => "Read"
  | write => "Write"
  | serialize => "Serialize"
  | deserialize => "Deserialize"
  | copy => "Copy"

/-- What operations of a category are called where they are counted. -/
def plural : Operation → String
  | read => "reads"
  | write => "writes"
  | serialize => "serializations"
  | deserialize => "deserializations"
  | copy => "copies"

/-- The category of a name. -/
def ofName? (name : String) : Option Operation := all.find? (·.name == name)

/-- The categories with a histogram, in the order of reports. -/
def timed : List Operation := [serialize, deserialize, read, write]

end Operation

/-- Counters of all categories and histograms of all but copies. -/
structure Metrics where
  /-- Number of reads. -/
  reads : UInt64
  /-- Number of writes. -/
  writes : UInt64
  /-- Number of serializations. -/
  serializations : UInt64
  /-- Number of deserializations. -/
  deserializations : UInt64
  /-- Number of copies. -/
  copies : UInt64
  /-- Latencies of reads. -/
  readLatency : Histogram
  /-- Latencies of writes. -/
  writeLatency : Histogram
  /-- Latencies of serializations. -/
  serializeLatency : Histogram
  /-- Latencies of deserializations. -/
  deserializeLatency : Histogram
  deriving DecidableEq, Inhabited

namespace Metrics

/-- A registry that has recorded nothing. -/
def empty : Metrics := ⟨0, 0, 0, 0, 0, .empty, .empty, .empty, .empty⟩

/-- Number of operations of a category. -/
def count (m : Metrics) : Operation → UInt64
  | .read => m.reads
  | .write => m.writes
  | .serialize => m.serializations
  | .deserialize => m.deserializations
  | .copy => m.copies

/-- The histogram of a category; copies have none. -/
def histogram? (m : Metrics) : Operation → Option Histogram
  | .read => some m.readLatency
  | .write => some m.writeLatency
  | .serialize => some m.serializeLatency
  | .deserialize => some m.deserializeLatency
  | .copy => none

/-- Counts one operation `op` and its `latency`. -/
def record (op : Operation) (latency : UInt64) (m : Metrics) : Metrics :=
  match op with
  | .read => { m with reads := m.reads + 1, readLatency := m.readLatency.record latency }
  | .write => { m with writes := m.writes + 1, writeLatency := m.writeLatency.record latency }
  | .serialize =>
    { m with serializations := m.serializations + 1,
             serializeLatency := m.serializeLatency.record latency }
  | .deserialize =>
    { m with deserializations := m.deserializations + 1,
             deserializeLatency := m.deserializeLatency.record latency }
  | .copy => { m with copies := m.copies + 1 }

/-- The registry with nothing recorded for a category. -/
def clear (m : Metrics) : Operation → Metrics
  | .read => { m with reads := 0, readLatency := .empty }
  | .write => { m with writes := 0, writeLatency := .empty }
  | .serialize => { m with serializations := 0, serializeLatency := .empty }
  | .deserialize => { m with deserializations := 0, deserializeLatency := .empty }
  | .copy => { m with copies := 0 }

/-- Forgets what was recorded, category by category. -/
def reset (m : Metrics) : Metrics := Operation.all.foldl clear m

theorem reset_eq (m : Metrics) : m.reset = empty := rfl

/-- What the histogram of the category `op` reports; nothing for copies. -/
def summary (m : Metrics) (op : Operation) : Histogram.Summary :=
  ((m.histogram? op).getD .empty).summary

end Metrics

end Parcel
