import Parcel.Unicode.CharSet

/-!
# Tables of code points

The properties of characters are kept as text: words between blanks, each one code point in
hexadecimal digits, a range such as `41-5A`, or a range with a step such as `100-136/2`, which
stands for every second code point of it. The step is hexadecimal as well.

## Main definitions

* `Unicode.table` — the set of a table
-/

namespace Parcel.Unicode

/-- What stands before the first occurrence of the character `c`, and what follows it. -/
def cut (c : Char) (word : List Char) : List Char × List Char :=
  (word.takeWhile (· != c), (word.dropWhile (· != c)).drop 1)

/-- Puts a character before the first of some words; a blank begins a new word. -/
def addToWords (c : Char) (words : List (List Char)) : List (List Char) :=
  if c.isWhitespace then [] :: words
  else match words with
    | [] => [[c]]
    | word :: rest => (c :: word) :: rest

/-- The words of a text. -/
def words (text : String) : List (List Char) :=
  (text.toList.foldr addToWords []).filter (!·.isEmpty)

/-- The code points `first`, `first + step`, …, `last`. -/
structure Run where
  /-- Least code point. -/
  first : Nat
  /-- Greatest code point. -/
  last : Nat
  /-- Distance between neighbours. -/
  step : Nat

namespace Run

/-- The value of a hexadecimal digit. -/
def digitValue (c : Char) : Nat := if c.toNat < 0x41 then c.toNat - 0x30 else c.toNat - 0x37

/-- The number of some hexadecimal digits. -/
def number (digits : List Char) : Nat := digits.foldl (fun n c => 16 * n + digitValue c) 0

/-- The run that a word stands for. -/
def ofWord (word : List Char) : Run :=
  let (first, rest) := cut '-' word
  let (last, step) := cut '/' rest
  ⟨number first, number (if last.isEmpty then first else last),
    if step.isEmpty then 1 else number step⟩

/-- The code points of a run. -/
def points (r : Run) : List Nat :=
  (List.range ((r.last - r.first) / r.step + 1)).map (r.first + r.step * ·)

/-- The spans of a run. -/
def spans (r : Run) : List Span :=
  if r.step = 1 then [⟨r.first, r.last⟩] else r.points.map fun n => ⟨n, n⟩

end Run

/-- The set of a table whose words are in ascending order. -/
def table (text : String) : CharSet :=
  ⟨Span.joinAll ((words text).flatMap fun word => (Run.ofWord word).spans)⟩

end Parcel.Unicode
