import Parcel.Bytes

/-!
# UTF-8

Text travels as UTF-8. Writing concatenates the encodings of the characters. Reading runs a
machine over the bytes: between two characters it looks up the leading byte, inside a character
it knows how many bytes are still owed and the range the next one must lie in. When the machine
refuses a byte, the fault tells how many bytes of a character were read before it and how many
bytes of whole characters precede that character.

## Main definitions

* `Utf8.encode` — the bytes of a text
* `Utf8.decode` — the text of the bytes, or the first fault
* `Utf8.Fault`, `Utf8.Fault.message` — what is wrong with a byte string that is not UTF-8
-/

namespace Parcel.Utf8

/-- The UTF-8 bytes of a list of characters. -/
def encodeChars (cs : List Char) : Bytes := cs.flatMap String.utf8EncodeChar

/-- The UTF-8 bytes of a text. -/
def encode (s : String) : Bytes := encodeChars s.toList

/-- Why a byte string is not UTF-8. Both causes carry the number of bytes of whole characters
before the offending one. -/
inductive Fault where
  /-- A byte that no character continues with, after `length` bytes of one. -/
  | invalid (length index : Nat)
  /-- The input ends inside a character, which starts at `index`. -/
  | incomplete (index : Nat)
  deriving DecidableEq, Inhabited

/-- The wording of a fault. -/
def Fault.message : Fault → String
  | .invalid length index =>
    "invalid utf-8 sequence of " ++ toString length ++ " bytes from index " ++ toString index
  | .incomplete index => "incomplete utf-8 byte sequence from index " ++ toString index

/-- Inside a character: its code point so far, the bytes read and owed, and the range of the
next byte. -/
structure Pending where
  /-- Bits of the code point collected so far. -/
  code : Nat
  /-- Bytes of this character already read. -/
  read : Nat
  /-- Bytes of this character still to come. -/
  owed : Nat
  /-- Least byte that may come next. -/
  low : UInt8
  /-- Greatest byte that may come next. -/
  high : UInt8
  deriving DecidableEq, Inhabited

/-- The state after a leading byte of a character of two or more bytes; `none` for a byte that
leads no character. The narrowed ranges exclude overlong forms, surrogates and code points
past U+10FFFF. -/
def lead? (b : UInt8) : Option Pending :=
  if 0xC2 ≤ b ∧ b ≤ 0xDF then some ⟨b.toNat - 0xC0, 1, 1, 0x80, 0xBF⟩
  else if b = 0xE0 then some ⟨0, 1, 2, 0xA0, 0xBF⟩
  else if b = 0xED then some ⟨0xD, 1, 2, 0x80, 0x9F⟩
  else if 0xE1 ≤ b ∧ b ≤ 0xEF then some ⟨b.toNat - 0xE0, 1, 2, 0x80, 0xBF⟩
  else if b = 0xF0 then some ⟨0, 1, 3, 0x90, 0xBF⟩
  else if 0xF1 ≤ b ∧ b ≤ 0xF3 then some ⟨b.toNat - 0xF0, 1, 3, 0x80, 0xBF⟩
  else if b = 0xF4 then some ⟨4, 1, 3, 0x80, 0x8F⟩
  else none

/-- Reads characters from `s`, where `index` bytes of whole characters precede, `done` holds those
characters in reverse, and `inside` is the character being read, if any. -/
def decodeFrom (index : Nat) (done : List Char) (inside : Option Pending) :
    Bytes → Except Fault (List Char)
  | [] =>
    match inside with
    | none => .ok done.reverse
    | some _ => .error (.incomplete index)
  | b :: rest =>
    match inside with
    | none =>
      if b < 0x80 then decodeFrom (index + 1) (Char.ofNat b.toNat :: done) none rest
      else match lead? b with
        | none => .error (.invalid 1 index)
        | some p => decodeFrom index done (some p) rest
    | some p =>
      if p.low ≤ b ∧ b ≤ p.high then
        let code := p.code * 64 + (b.toNat - 0x80)
        match p.owed with
        | 0 | 1 => decodeFrom (index + p.read + 1) (Char.ofNat code :: done) none rest
        | owed + 2 => decodeFrom index done (some ⟨code, p.read + 1, owed + 1, 0x80, 0xBF⟩) rest
      else .error (.invalid p.read index)

/-- The characters that a byte string encodes. -/
def decodeChars (s : Bytes) : Except Fault (List Char) := decodeFrom 0 [] none s

/-- The text that a byte string encodes. -/
def decode (s : Bytes) : Except Fault String := (decodeChars s).map String.ofList

/-- Whether a byte string is UTF-8. -/
def isValid (s : Bytes) : Bool := (decodeChars s).isOk

end Parcel.Utf8
