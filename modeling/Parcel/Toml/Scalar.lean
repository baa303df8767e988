import Parcel.Hex
import Parcel.Number.Layout
import Parcel.Toml.Item

/-!
# TOML scalars

Truth values, numbers, dates and times. All are runs of letters, digits and a few signs, so a
scalar is read by taking the longest such run and classifying it as a whole. A date and a time may
be joined by a blank, which makes one run of two.

## Main definitions

* `Toml.scalar?` — the item of a scalar
-/

namespace Parcel.Toml

/-- Whether a character can be a part of a scalar. -/
def isScalarChar (c : Char) : Bool :=
  c.isAlphanum || c == '+' || c == '-' || c == '.' || c == '_' || c == ':'

/-! ## Numbers -/

/-- Digits that satisfy `p`, without the single underscores between them. -/
def grouped? (p : Char → Bool) : List Char → Option (List Char)
  | [] => none
  | [c] => if p c then some [c] else none
  | c :: '_' :: rest => if p c then (grouped? p rest).map (c :: ·) else none
  | c :: rest => if p c then (grouped? p rest).map (c :: ·) else none

/-- The least integer of 64 bits. -/
def leastInteger : Int := -0x8000000000000000

/-- The greatest integer of 64 bits. -/
def greatestInteger : Int := 0x7FFFFFFFFFFFFFFF

/-- A number as an item, if it has 64 bits at most. -/
def ofInteger? (n : Int) : Option Item :=
  if leastInteger ≤ n ∧ n ≤ greatestInteger then some (.integer n) else none

/-- The number that `digits` stand for in a base below 17. -/
def ofDigits (base : Nat) (digits : List Char) : Nat :=
  digits.foldl (fun n c => base * n + (Hex.charValue? c).getD 0) 0

/-- Digits in a base below 17. -/
def based? (base : Nat) (s : List Char) : Option Item := do
  let isDigit (c : Char) := (Hex.charValue? c).any (· < base)
  let digits ← grouped? isDigit s
  ofInteger? (ofDigits base digits)

/-- A sign, if there is one, and what follows it. -/
def signed : List Char → List Char × List Char
  | '+' :: rest => (['+'], rest)
  | '-' :: rest => (['-'], rest)
  | s => ([], s)

/-- Decimal digits without a leading zero. -/
def whole? (s : List Char) : Option (List Char) :=
  match s with
  | '0' :: _ :: _ => none
  | s => grouped? Decimal.isDigit s

/-- A decimal integer. -/
def decimal? (s : List Char) : Option Item := do
  let (sign, digits) := signed s
  let digits ← whole? digits
  let n ← Decimal.digits? digits
  ofInteger? (if sign = ['-'] then -n else n)

/-- What stands before the first character that satisfies `p`, that character, and what follows. -/
def cut (p : Char → Bool) (s : List Char) : List Char × Option (Char × List Char) :=
  match s.dropWhile fun c => !p c with
  | [] => (s, none)
  | c :: rest => (s.takeWhile fun c => !p c, some (c, rest))

/-- The exponent of a number, with its letter. -/
def exponent? : Option (Char × List Char) → Option (List Char)
  | none => some []
  | some (_, s) => do
    let (sign, digits) := signed s
    return 'e' :: sign ++ (← grouped? Decimal.isDigit digits)

/-- The digits behind the point of a number, with the point. -/
def fraction? : Option (Char × List Char) → Option (List Char)
  | none => some []
  | some (_, s) => do return '.' :: (← grouped? Decimal.isDigit s)

/-- A floating-point number in digits. It has a fraction or an exponent, and is not so great that
it would become infinite. -/
def float? (s : List Char) : Option Item := do
  let (sign, rest) := signed s
  let (mantissa, power) := cut (fun c => c == 'e' || c == 'E') rest
  let (digits, decimals) := cut (· == '.') mantissa
  if power.isNone && decimals.isNone then none
  let text := sign ++ (← whole? digits) ++ (← fraction? decimals) ++ (← exponent? power)
  let bits ← Number.read? Binary.double text
  if bits = Binary.double.infinity then none else return .float bits.toUInt64

/-- Infinity or no number, with or without a sign. -/
def special? (s : List Char) : Option Item :=
  let (_, name) := signed s
  if name = ['i', 'n', 'f'] ∨ name = ['n', 'a', 'n'] then
    (Number.read? Binary.double s).map fun bits => .float bits.toUInt64
  else none

/-! ## Dates and times -/

/-- The number of two digits. -/
def pair? (a b : Char) : Option Nat := Decimal.digits? [a, b]

/-- Number of days in a month. -/
def daysIn (year month : Nat) : Nat :=
  if month = 2 then
    if year % 4 = 0 ∧ (year % 100 ≠ 0 ∨ year % 400 = 0) then 29 else 28
  else if month = 4 ∨ month = 6 ∨ month = 9 ∨ month = 11 then 30
  else 31

/-- What follows a date. -/
def afterDate? : List Char → Option (List Char)
  | a :: b :: c :: d :: '-' :: e :: f :: '-' :: g :: h :: rest => do
    let year ← Decimal.digits? [a, b, c, d]
    let month ← pair? e f
    let day ← pair? g h
    if 1 ≤ month ∧ month ≤ 12 ∧ 1 ≤ day ∧ day ≤ daysIn year month then some rest else none
  | _ => none

/-- What follows hours and minutes. -/
def afterMinutes? : List Char → Option (List Char)
  | a :: b :: ':' :: c :: d :: rest => do
    if (← pair? a b) ≤ 23 ∧ (← pair? c d) ≤ 59 then some rest else none
  | _ => none

/-- What follows a time. -/
def afterTime? (s : List Char) : Option (List Char) := do
  match ← afterMinutes? s with
  | ':' :: a :: b :: rest =>
    if 60 < (← pair? a b) then none
    else match rest with
      | '.' :: c :: rest =>
        if Decimal.isDigit c then some (rest.dropWhile Decimal.isDigit) else none
      | rest => some rest
  | _ => none

/-- Whether a time is followed by nothing, or by its distance from universal time. -/
def isZone : List Char → Bool
  | [] => true
  | ['Z'] | ['z'] => true
  | '+' :: s | '-' :: s => afterMinutes? s == some []
  | _ => false

/-- Whether a run is a time with or without its distance from universal time. -/
def isZonedTime (s : List Char) : Bool := (afterTime? s).any isZone

/-- Whether a run is a date and a time. -/
def isDateTime (s : List Char) : Bool :=
  match afterDate? s with
  | some (c :: rest) => (c == 'T' || c == 't') && isZonedTime rest
  | _ => false

/-- A date, a time or both in one run. -/
def moment? (s : List Char) : Option Item :=
  if afterDate? s = some [] || afterTime? s = some [] || isDateTime s then
    some (.moment (String.ofList s))
  else none

/-! ## Scalars -/

/-- The item of a run. -/
def classify? (s : List Char) : Option Item :=
  match s with
  | ['t', 'r', 'u', 'e'] => some (.boolean true)
  | ['f', 'a', 'l', 's', 'e'] => some (.boolean false)
  | '0' :: 'x' :: rest => based? 16 rest
  | '0' :: 'o' :: rest => based? 8 rest
  | '0' :: 'b' :: rest => based? 2 rest
  | s => moment? s <|> decimal? s <|> float? s <|> special? s

/-- The item of a scalar, and what follows it. -/
def scalar? (s : List Char) : Option (Item × List Char) := do
  let first := s.takeWhile isScalarChar
  let rest := s.dropWhile isScalarChar
  let item ← classify? first
  match afterDate? first, rest with
  | some [], ' ' :: more =>
    let second := more.takeWhile isScalarChar
    if isZonedTime second then
      return (.moment (String.ofList (first ++ ' ' :: second)), more.dropWhile isScalarChar)
    else return (item, rest)
  | _, _ => return (item, rest)

end Parcel.Toml
