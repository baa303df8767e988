import Parcel.Unicode.Character

/-!
# Quoted text

Text between quotation marks for diagnostics. Control characters, separators other than the space,
unassigned characters and characters that would merge with the one before them are written as
their code points.
-/

namespace Parcel.Unicode.Quoted

/-- A code point in lower case hexadecimal, between braces. -/
def codePoint (c : Char) : List Char :=
  '\\' :: 'u' :: '\x7b' :: (Nat.toDigits 16 c.toNat ++ ['\x7d'])

/-- One character inside quotation marks of the kind `mark`. -/
def escape (mark : Char) (c : Char) : List Char :=
  if c = '\x00' then ['\\', '0']
  else if c = '\t' then ['\\', 't']
  else if c = '\r' then ['\\', 'r']
  else if c = '\n' then ['\\', 'n']
  else if c = '\\' ∨ c = mark then ['\\', c]
  else if extendsGrapheme c then codePoint c
  else if isPrintable c then [c]
  else codePoint c

/-- Characters between two marks. -/
def between (mark : Char) (cs : List Char) : String :=
  String.ofList (mark :: cs.flatMap (escape mark) ++ [mark])

/-- A text between double quotation marks. -/
def text (s : String) : String := between '"' s.toList

/-- A character between single quotation marks. -/
def char (c : Char) : String := between '\'' [c]

end Parcel.Unicode.Quoted
