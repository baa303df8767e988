import Parcel.Bytes
import Parcel.Unicode.Quoted

/-!
# Hexadecimal

Bytes as pairs of hexadecimal digits. Writing uses lower case; reading takes either case.

## Main definitions

* `Hex.encode`, `Hex.text` — two digits for every byte
* `Hex.decode` — the bytes that digits stand for
* `Hex.Fault`, `Hex.Fault.message` — why digits stand for no bytes
-/

namespace Parcel.Hex

/-- The lower case digit of a number below sixteen. -/
def digit (n : UInt8) : UInt8 := if n < 10 then 0x30 + n else 0x57 + n

/-- The number that a digit of either case stands for. -/
def digitValue? (b : UInt8) : Option UInt8 :=
  if 0x30 ≤ b ∧ b ≤ 0x39 then some (b - 0x30)
  else if 0x61 ≤ b ∧ b ≤ 0x66 then some (b - 0x57)
  else if 0x41 ≤ b ∧ b ≤ 0x46 then some (b - 0x37)
  else none

/-- The number that a character stands for as a digit of either case. -/
def charValue? (c : Char) : Option Nat :=
  if c.toNat < 0x80 then (digitValue? c.toUInt8).map (·.toNat) else none

/-- Two digits for every byte, the more significant one first. -/
def encode (s : Bytes) : Bytes := s.flatMap fun b => [digit (b / 16), digit (b % 16)]

/-- The digits of the bytes as text. -/
def text (s : Bytes) : String := String.ofList ((encode s).map fun b => Char.ofNat b.toNat)

/-- Why digits stand for no bytes. -/
inductive Fault where
  /-- A digit is left without a partner. -/
  | oddLength
  /-- The byte `b` at `offset` is no digit. -/
  | invalidDigit (b : UInt8) (offset : Nat)
  deriving DecidableEq, Inhabited

/-- The wording of a fault. A byte that is no digit is shown as the character of that code point. -/
def Fault.message : Fault → String
  | .oddLength => "Odd number of digits"
  | .invalidDigit b offset =>
    "Invalid character " ++ Unicode.Quoted.char (Char.ofNat b.toNat) ++ " at position " ++
      toString offset

/-- Reads pairs of digits from `offset` on; `done` holds the bytes so far in reverse. -/
def decodeFrom (offset : Nat) (done : Bytes) : Bytes → Except Fault Bytes
  | high :: low :: rest =>
    match digitValue? high, digitValue? low with
    | some h, some l => decodeFrom (offset + 2) ((h * 16 + l) :: done) rest
    | none, _ => .error (.invalidDigit high offset)
    | some _, none => .error (.invalidDigit low (offset + 1))
  | _ => .ok done.reverse

/-- The bytes that digits stand for. An odd number of digits is refused before any is looked at. -/
def decode (s : Bytes) : Except Fault Bytes :=
  if s.length % 2 = 1 then .error .oddLength else decodeFrom 0 [] s

end Parcel.Hex
