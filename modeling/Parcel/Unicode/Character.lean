import Parcel.Unicode.Recent
import Parcel.Unicode.Trait

/-!
# Character classes

What names are made of, and what quoting leaves alone. Both know the recent characters.

## Main definitions

* `Unicode.isAlphabetic`, `Unicode.isAlphanumeric` — what names are made of
* `Unicode.isPrintable`, `Unicode.extendsGrapheme` — what quoting leaves alone
-/

namespace Parcel.Unicode

/-- The Alphabetic property of a code point. -/
def alphabeticPoint (n : Nat) : Bool := alphabetic.holds n || recentAlphabetic.holds n

/-- The Alphabetic property. -/
def isAlphabetic (c : Char) : Bool :=
  if c.toNat < 0x80 then c.isAlpha else alphabeticPoint c.toNat

/-- Alphabetic, or a numeral. -/
def isAlphanumeric (c : Char) : Bool :=
  if c.toNat < 0x80 then c.isAlphanum
  else alphabeticPoint c.toNat || numeral.holds c.toNat || recentNumeral.holds c.toNat

/-- The Grapheme_Extend property. -/
def extendsGrapheme (c : Char) : Bool :=
  let n := c.toNat
  0x300 ≤ n && (graphemeExtend.holds n || recentExtend.holds n)

/-- A character with a shape of its own: the space, and everything assigned that is neither a
separator nor a control. -/
def isPrintable (c : Char) : Bool :=
  let n := c.toNat
  if n < 0x7F then 0x20 ≤ n
  else (visible.holds n && !separator.holds n) || recentVisible.holds n

end Parcel.Unicode
