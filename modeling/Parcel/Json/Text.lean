import Parcel.Json.Syntax
import Parcel.Unicode.Utf8

/-!
# JSON strings

Between the quotation marks of a JSON string, quotation marks, backslashes and control characters
are escaped; everything else stands for itself. Reading also accepts the other escapes, among them
pairs of surrogates.

## Main definitions

* `Json.escape`, `Json.quote` — writing
* `Json.unescape?`, `Json.text?` — reading
-/

namespace Parcel.Json

/-- How a byte is written inside a string. -/
def escapeByte (b : UInt8) : Bytes :=
  if b = 0x22 ∨ b = 0x5C then [0x5C, b]
  else if b = 0x08 then [0x5C, 0x62]
  else if b = 0x0C then [0x5C, 0x66]
  else if b = 0x0A then [0x5C, 0x6E]
  else if b = 0x0D then [0x5C, 0x72]
  else if b = 0x09 then [0x5C, 0x74]
  else if b < 0x20 then [0x5C, 0x75, 0x30, 0x30, Hex.digit (b / 16), Hex.digit (b % 16)]
  else [b]

/-- The inside of a string. -/
def escape (s : Bytes) : Bytes := s.flatMap escapeByte

/-- A text as a string in quotation marks. -/
def quote (s : String) : Bytes := 0x22 :: (escape (Utf8.encode s) ++ [0x22])

/-- The number that four hexadecimal digits stand for. -/
def fourDigits? (a b c d : UInt8) : Option Nat := do
  let a ← Hex.digitValue? a
  let b ← Hex.digitValue? b
  let c ← Hex.digitValue? c
  let d ← Hex.digitValue? d
  return ((a.toNat * 16 + b.toNat) * 16 + c.toNat) * 16 + d.toNat

/-- The byte that a short escape stands for. -/
def shortEscape? (b : UInt8) : Option UInt8 :=
  if b = 0x22 ∨ b = 0x5C ∨ b = 0x2F then some b
  else if b = 0x62 then some 0x08
  else if b = 0x66 then some 0x0C
  else if b = 0x6E then some 0x0A
  else if b = 0x72 then some 0x0D
  else if b = 0x74 then some 0x09
  else none

/-- Bytes in front of `done`, in reverse. -/
def push (bytes done : Bytes) : Bytes := bytes.reverse ++ done

/-- The bytes that the inside of a string stands for; `done` holds those so far in reverse, and
`high` a leading surrogate that waits for its partner. -/
def unescapeFrom (done : Bytes) (high : Option Nat) : Bytes → Option Bytes
  | [] => if high.isSome then none else some done.reverse
  -- an escape with four hexadecimal digits
  | 0x5C :: 0x75 :: a :: b :: c :: d :: rest => do
    let n ← fourDigits? a b c d
    match high with
    | some lead =>
      if 0xDC00 ≤ n ∧ n ≤ 0xDFFF then
        let point := 0x10000 + (lead - 0xD800) * 0x400 + (n - 0xDC00)
        unescapeFrom (push (String.utf8EncodeChar (Char.ofNat point)) done) none rest
      else none
    | none =>
      -- a trailing surrogate needs a leading one before it
      if 0xDC00 ≤ n ∧ n ≤ 0xDFFF then none
      else if 0xD800 ≤ n ∧ n ≤ 0xDBFF then unescapeFrom done (some n) rest
      else unescapeFrom (push (String.utf8EncodeChar (Char.ofNat n)) done) none rest
  | 0x5C :: e :: rest => do
    let b ← shortEscape? e
    if high.isSome then none else unescapeFrom (b :: done) none rest
  | b :: rest => if high.isSome then none else unescapeFrom (b :: done) none rest

/-- The bytes that the inside of a string stands for. -/
def unescape? (raw : Bytes) : Option Bytes := unescapeFrom [] none raw

/-- The text that the inside of a string stands for. -/
def text? (raw : Bytes) : Option String := (unescape? raw).bind fun s => (Utf8.decode s).toOption

end Parcel.Json
