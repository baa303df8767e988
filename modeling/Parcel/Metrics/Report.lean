import Parcel.Metrics.Registry
import Parcel.Number.Decimal

/-!
# Metrics reports

The registry as indented JSON, and as lines of samples for a monitoring system.

## Main definitions

* `Metrics.toJson`
* `Metrics.toSamples`
-/

namespace Parcel

/-- Nested groups of named numbers. -/
inductive Outline where
  /-- A number. -/
  | number (n : UInt64)
  /-- A group. -/
  | group (members : List (String × Outline))

namespace Outline

/-- The decimal text of a counter. -/
def numeral (n : UInt64) : String := Decimal.text n.toNat

/-- So many levels of indentation, two spaces each. -/
def indent (level : Nat) : String := String.ofList (List.replicate (2 * level) ' ')

mutual

/-- An outline as JSON at a level of indentation. -/
def render (level : Nat) : Outline → String
  | number n => numeral n
  | group members => "\x7b\n" ++ renderMembers (level + 1) members ++ indent level ++ "\x7d"

/-- The members of a group, a line or more for each. -/
def renderMembers (level : Nat) : List (String × Outline) → String
  | [] => ""
  | (name, value) :: rest =>
    indent level ++ "\"" ++ name ++ "\": " ++ render level value ++
      (if rest.isEmpty then "\n" else ",\n") ++ renderMembers level rest

end

end Outline

namespace Metrics

open Outline (number group numeral)

/-- A summary as an outline. -/
def summaryOutline (s : Histogram.Summary) : Outline :=
  group [("p50_ns", number s.p50), ("p95_ns", number s.p95), ("p99_ns", number s.p99),
    ("p999_ns", number s.p999), ("max_ns", number s.max), ("avg_ns", number s.average),
    ("count", number s.count)]

/-- Counters and summaries as an outline. -/
def outline (m : Metrics) : Outline :=
  group [
    ("operations", group (Operation.all.map fun op => (op.plural, number (m.count op)))),
    ("latency", group (Operation.timed.map fun op => (op.name, summaryOutline (m.summary op))))]

/-- Counters and summaries as indented JSON. -/
def toJson (m : Metrics) : String := m.outline.render 0

/-- Lines, each with its end. -/
def unlines (lines : List String) : String := String.join (lines.map (· ++ "\n"))

/-- A sample with one label. -/
def labelled (family label value : String) (sample : UInt64) : String :=
  family ++ "\x7b" ++ label ++ "=\"" ++ value ++ "\"\x7d " ++ numeral sample

/-- The lines of the counters. -/
def counterLines (m : Metrics) : List String :=
  "# HELP container_operations_total Total number of container operations" ::
  "# TYPE container_operations_total counter" ::
  Operation.all.map fun op =>
    labelled "container_operations_total" "operation" op.name (m.count op)

/-- The lines of the latencies of one category. -/
def latencyLines (op : Operation) (s : Histogram.Summary) : List String :=
  let family := "container_" ++ op.name ++ "_latency_nanoseconds"
  ["# HELP " ++ family ++ " " ++ op.title ++ " operation latency percentiles",
    "# TYPE " ++ family ++ " summary",
    labelled family "quantile" "0.5" s.p50, labelled family "quantile" "0.95" s.p95,
    labelled family "quantile" "0.99" s.p99, labelled family "quantile" "0.999" s.p999,
    family ++ "_max " ++ numeral s.max, family ++ "_count " ++ numeral s.count]

/-- Counters and percentiles as lines of samples. -/
def toSamples (m : Metrics) : String :=
  unlines (m.counterLines ++ Operation.timed.flatMap fun op => latencyLines op (m.summary op))

end Metrics

end Parcel
