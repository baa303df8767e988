/-!
# Binary floating-point formats

A floating-point number is kept as its bit pattern, so nothing about it is approximate. A format
gives the widths of the fraction and exponent fields. A pattern denotes a signed multiple of a
power of two, an infinity, or no number; `nearest` goes the other way and rounds a positive
rational to a pattern, ties to the even one.

## Main definitions

* `Binary.Format`, `Binary.single`, `Binary.double` — the two formats in use
* `Binary.Number`, `Binary.Format.read` — what a bit pattern denotes
* `Binary.Format.nearest` — the pattern closest to a rational
* `Binary.Format.equal`, `Binary.Format.less` — comparison as numbers
* `Binary.widen` — a single as a double
-/

namespace Parcel.Binary

/-- Widths of the two fields below the sign bit. -/
structure Format where
  /-- Bits of the fraction field. -/
  fractionBits : Nat
  /-- Bits of the exponent field. -/
  exponentBits : Nat
  deriving DecidableEq

/-- The 32-bit format. -/
def single : Format := ⟨23, 8⟩

/-- The 64-bit format. -/
def double : Format := ⟨52, 11⟩

/-- What a bit pattern denotes. -/
inductive Number where
  /-- No number at all. -/
  | nan
  /-- An infinity. -/
  | infinite (negative : Bool)
  /-- The number `± mantissa * 2 ^ exponent`. -/
  | finite (negative : Bool) (mantissa : Nat) (exponent : Int)
  deriving DecidableEq

namespace Format

variable (f : Format)

/-- The magnitude bits of infinity; a greater magnitude is not a number. -/
def infinity : Nat := (Nat.pow 2 f.exponentBits - 1) * Nat.pow 2 f.fractionBits

/-- The sign bit. -/
def signBit : Nat := Nat.pow 2 (f.exponentBits + f.fractionBits)

/-- The exponent of the least positive number. -/
def leastExponent : Int := 2 - Nat.pow 2 (f.exponentBits - 1) - f.fractionBits

/-- The pattern without its sign bit. -/
def magnitude (bits : Nat) : Nat := bits % f.signBit

/-- Whether the sign bit is set. -/
def isNegative (bits : Nat) : Bool := f.signBit ≤ bits

/-- Whether a pattern denotes no number. -/
def isNaN (bits : Nat) : Bool := f.infinity < f.magnitude bits

/-- A quiet pattern that denotes no number. -/
def quietNaN : Nat := f.infinity + Nat.pow 2 (f.fractionBits - 1)

/-- A magnitude with a sign. -/
def withSign (negative : Bool) (magnitude : Nat) : Nat :=
  if negative then f.signBit + magnitude else magnitude

/-- What a bit pattern denotes. -/
def read (bits : Nat) : Number :=
  let negative := f.isNegative bits
  let magnitude := f.magnitude bits
  if f.infinity < magnitude then .nan
  else if magnitude = f.infinity then .infinite negative
  else
    let field := magnitude / Nat.pow 2 f.fractionBits
    let fraction := magnitude % Nat.pow 2 f.fractionBits
    if field = 0 then .finite negative fraction f.leastExponent
    else
      .finite negative (Nat.pow 2 f.fractionBits + fraction) (f.leastExponent + (field - 1 : Nat))

/-- The integer nearest to `num / den`, the even one of two equally near. -/
def roundHalfEven (num den : Nat) : Nat :=
  let q := num / den
  let r := num % den
  if 2 * r < den then q
  else if den < 2 * r then q + 1
  else if q % 2 = 0 then q else q + 1

/-- The exponent of the leading bit of the positive rational `num / den`. -/
def leadingBit (num den : Nat) : Int :=
  let k : Int := (num.log2 : Int) - (den.log2 : Int)
  let reached :=
    if 0 ≤ k then den * Nat.pow 2 k.toNat ≤ num else den ≤ num * Nat.pow 2 (-k).toNat
  if reached then k else k - 1

/-- The magnitude bits of the number nearest to `num / den`, ties to even; infinity when it is
past the greatest finite number. -/
def nearest (num den : Nat) : Nat :=
  if num = 0 then 0
  else
    let exponent := max f.leastExponent (leadingBit num den - f.fractionBits)
    let mantissa :=
      if 0 ≤ exponent then roundHalfEven num (den * Nat.pow 2 exponent.toNat)
      else roundHalfEven (num * Nat.pow 2 (-exponent).toNat) den
    min ((exponent - f.leastExponent).toNat * Nat.pow 2 f.fractionBits + mantissa) f.infinity

/-- The magnitude bits of the number nearest to `coefficient * 10 ^ exponent`. A value far outside
the range of the format is recognised before any power is computed. -/
def nearestDecimal (coefficient : Nat) (exponent : Int) : Nat :=
  let reach : Int := Nat.pow 2 f.exponentBits
  let digits : Int := coefficient.log2
  if coefficient = 0 then 0
  else if reach < exponent then f.infinity
  else if exponent < -(reach + digits) then 0
  else if 0 ≤ exponent then f.nearest (coefficient * Nat.pow 10 exponent.toNat) 1
  else f.nearest coefficient (Nat.pow 10 (-exponent).toNat)

/-- Equality as numbers: no pattern that denotes no number equals anything, and the two zeros are
equal. -/
def equal (a b : Nat) : Bool :=
  !f.isNaN a && !f.isNaN b && (a == b || (f.magnitude a == 0 && f.magnitude b == 0))

/-- The place of a number in the order of the numbers; both zeros have the same place. -/
def place (bits : Nat) : Int :=
  if f.isNegative bits then -(f.magnitude bits : Int) else f.magnitude bits

/-- Strictly less as numbers; false when either pattern denotes no number. -/
def less (a b : Nat) : Bool := !f.isNaN a && !f.isNaN b && f.place a < f.place b

end Format

/-- The magnitude bits, in format `f`, of `mantissa * 2 ^ exponent`. -/
def Format.nearestScaled (f : Format) (mantissa : Nat) (exponent : Int) : Nat :=
  if 0 ≤ exponent then f.nearest (mantissa * Nat.pow 2 exponent.toNat) 1
  else f.nearest mantissa (Nat.pow 2 (-exponent).toNat)

/-- The magnitude bits of a product of magnitudes; infinity when a factor is not finite. -/
def Format.times (f : Format) (a b : Nat) : Nat :=
  match f.read a, f.read b with
  | .finite _ m e, .finite _ n d => f.nearestScaled (m * n) (e + d)
  | _, _ => f.infinity

/-- The magnitude bits of the quotient of a magnitude by a positive one. -/
def Format.over (f : Format) (a b : Nat) : Nat :=
  match f.read a, f.read b with
  | .finite _ m e, .finite _ n d =>
    if 0 ≤ e - d then f.nearest (m * Nat.pow 2 (e - d).toNat) n
    else f.nearest m (n * Nat.pow 2 (d - e).toNat)
  | _, _ => f.infinity

/-- The double that denotes what a single denotes. -/
def widen (bits : UInt32) : UInt64 :=
  match single.read bits.toNat with
  | .nan => (double.withSign (single.isNegative bits.toNat)
      (double.quietNaN + (single.magnitude bits.toNat % Nat.pow 2 22) * Nat.pow 2 29)).toUInt64
  | .infinite negative => (double.withSign negative double.infinity).toUInt64
  | .finite negative mantissa exponent =>
    (double.withSign negative (double.nearestScaled mantissa exponent)).toUInt64

end Parcel.Binary
