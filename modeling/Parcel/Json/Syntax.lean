import Parcel.Hex

/-!
# JSON texts

The grammar of JSON over bytes. A text is read into a tree that keeps strings and numbers as they
are written; what they denote, and whether they denote anything, is decided where they are used.

## Main definitions

* `Json.Tree` — trees
* `Json.parse?` — the tree of an input that holds one value and white space
-/

namespace Parcel

/-- A number as written. -/
structure Json.Numeral where
  /-- Whether there is a minus sign. -/
  negative : Bool
  /-- The digits before the point. -/
  whole : Bytes
  /-- The digits after the point, if there is one. -/
  fraction : Option Bytes
  /-- The exponent, if there is one: whether it is negative, and its digits. -/
  exponent : Option (Bool × Bytes)
  deriving DecidableEq, Inhabited

mutual

/-- A JSON value, with strings and numbers as written. -/
inductive Json.Tree where
  /-- The null literal. -/
  | null
  /-- A truth value. -/
  | bool (b : Bool)
  /-- A number. -/
  | number (n : Json.Numeral)
  /-- A string, as it stands between its quotation marks. -/
  | string (raw : Bytes)
  /-- An array. -/
  | array (items : List Json.Tree)
  /-- An object; keys may repeat. -/
  | object (members : List Json.Member)

/-- A key, as it stands between its quotation marks, and its value. -/
structure Json.Member where
  /-- The key as written. -/
  key : Bytes
  /-- The value. -/
  value : Json.Tree

end

instance : Inhabited Json.Tree := ⟨.null⟩

namespace Json

/-- White space between tokens: space, tab, line feed and carriage return. -/
def isSpace (b : UInt8) : Bool := b == 0x20 || b == 0x09 || b == 0x0A || b == 0x0D

/-- What remains after leading white space. -/
def skipSpace (s : Bytes) : Bytes := s.dropWhile isSpace

/-- Whether a byte is an ASCII digit. -/
def isDigit (b : UInt8) : Bool := 0x30 ≤ b && b ≤ 0x39

/-- Whether a byte is a hexadecimal digit. -/
def isHexDigit (b : UInt8) : Bool := (Hex.digitValue? b).isSome

/-- Whether a byte may follow a backslash, the escape by code point apart. -/
def isShortEscape (b : UInt8) : Bool :=
  b == 0x22 || b == 0x5C || b == 0x2F || b == 0x62 || b == 0x66 || b == 0x6E || b == 0x72 ||
    b == 0x74

/-- Reads a string after its opening quotation mark; `done` holds what was read in reverse. -/
def stringFrom (done : Bytes) : Bytes → Option (Bytes × Bytes)
  | [] => none
  | 0x22 :: rest => some (done.reverse, rest)
  | 0x5C :: 0x75 :: a :: b :: c :: d :: rest =>
    if [a, b, c, d].all isHexDigit then stringFrom (d :: c :: b :: a :: 0x75 :: 0x5C :: done) rest
    else none
  | 0x5C :: e :: rest => if isShortEscape e then stringFrom (e :: 0x5C :: done) rest else none
  | b :: rest => if b < 0x20 ∨ b = 0x5C then none else stringFrom (b :: done) rest

/-- Reads a string after its opening quotation mark. -/
def string? (s : Bytes) : Option (Bytes × Bytes) := stringFrom [] s

/-- Reads a run of at least one digit. -/
def digits? (s : Bytes) : Option (Bytes × Bytes) :=
  let digits := s.takeWhile isDigit
  if digits.isEmpty then none else some (digits, s.dropWhile isDigit)

/-- Reads the digits after the point, if there is one. -/
def fraction? : Bytes → Option (Option Bytes × Bytes)
  | 0x2E :: rest => (digits? rest).map fun (digits, rest) => (some digits, rest)
  | rest => some (none, rest)

/-- Reads the exponent, if there is one. -/
def exponent? : Bytes → Option (Option (Bool × Bytes) × Bytes)
  | [] => some (none, [])
  | b :: rest =>
    if b = 0x65 ∨ b = 0x45 then
      match rest with
      | 0x2D :: rest => (digits? rest).map fun (digits, rest) => (some (true, digits), rest)
      | 0x2B :: rest => (digits? rest).map fun (digits, rest) => (some (false, digits), rest)
      | rest => (digits? rest).map fun (digits, rest) => (some (false, digits), rest)
    else some (none, b :: rest)

/-- Reads a number. The digits before the point have no leading zero. -/
def number? (s : Bytes) : Option (Numeral × Bytes) := do
  let (negative, s) := match s with
    | 0x2D :: rest => (true, rest)
    | rest => (false, rest)
  let (whole, s) ← digits? s
  if whole.head? = some 0x30 ∧ whole ≠ [0x30] then none
  else
    let (fraction, s) ← fraction? s
    let (exponent, s) ← exponent? s
    return (⟨negative, whole, fraction, exponent⟩, s)

mutual

/-- Reads a value. -/
def valueWithin : Nat → Bytes → Option (Tree × Bytes)
  | 0, _ => none
  | fuel + 1, s =>
    match skipSpace s with
    -- the words `null`, `true` and `false`
    | 0x6E :: 0x75 :: 0x6C :: 0x6C :: rest => some (.null, rest)
    | 0x74 :: 0x72 :: 0x75 :: 0x65 :: rest => some (.bool true, rest)
    | 0x66 :: 0x61 :: 0x6C :: 0x73 :: 0x65 :: rest => some (.bool false, rest)
    -- a quotation mark, a square bracket or a brace
    | 0x22 :: rest => (string? rest).map fun (raw, rest) => (.string raw, rest)
    | 0x5B :: rest =>
      match skipSpace rest with
      | 0x5D :: rest => some (.array [], rest)
      | rest => (itemsWithin fuel rest).map fun (items, rest) => (.array items, rest)
    | 0x7B :: rest =>
      match skipSpace rest with
      | 0x7D :: rest => some (.object [], rest)
      | rest => (membersWithin fuel rest).map fun (members, rest) => (.object members, rest)
    | rest => (number? rest).map fun (n, rest) => (.number n, rest)

/-- Reads the items of an array that is not empty, and its end. -/
def itemsWithin : Nat → Bytes → Option (List Tree × Bytes)
  | 0, _ => none
  | fuel + 1, s => do
    let (item, rest) ← valueWithin fuel s
    match skipSpace rest with
    | 0x5D :: rest => return ([item], rest)
    | 0x2C :: rest =>
      let (items, rest) ← itemsWithin fuel rest
      return (item :: items, rest)
    | _ => none

/-- Reads the members of an object that is not empty, and its end. -/
def membersWithin : Nat → Bytes → Option (List Member × Bytes)
  | 0, _ => none
  | fuel + 1, s =>
    match skipSpace s with
    | 0x22 :: rest => do
      let (key, rest) ← string? rest
      match skipSpace rest with
      | 0x3A :: rest =>
        let (value, rest) ← valueWithin fuel rest
        match skipSpace rest with
        | 0x7D :: rest => return ([⟨key, value⟩], rest)
        | 0x2C :: rest =>
          let (members, rest) ← membersWithin fuel rest
          return (⟨key, value⟩ :: members, rest)
        | _ => none
      | _ => none
    | _ => none

end

/-- Reads a value; every step takes at least one byte, so the length of the input is allowance
enough. -/
def value? (s : Bytes) : Option (Tree × Bytes) := valueWithin (s.length + 1) s

/-- The tree of an input that holds one value and white space around it. -/
def parse? (s : Bytes) : Option Tree := do
  let (tree, rest) ← value? s
  if (skipSpace rest).isEmpty then some tree else none

end Json

end Parcel
