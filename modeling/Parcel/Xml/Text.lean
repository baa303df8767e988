import Parcel.Number.Decimal
import Parcel.Unicode.Character
import Parcel.Xml.Element

/-!
# XML text

Writing replaces the five special characters by named entities and control characters by numbered
ones. Reading accepts both kinds of entities for any character.

## Main definitions

* `Xml.escape`, `Xml.unescape`
* `Xml.isName` — which names elements can have
-/

namespace Parcel.Xml

/-- Two upper case hexadecimal digits. -/
def upperHex (n : Nat) : List Char := [Nat.digitChar (n / 16), (Nat.digitChar (n % 16)).toUpper]

/-- How a character is written in text. -/
def escapeChar (c : Char) : List Char :=
  if c = '&' then ['&', 'a', 'm', 'p', ';']
  else if c = '<' then ['&', 'l', 't', ';']
  else if c = '>' then ['&', 'g', 't', ';']
  else if c = '"' then ['&', 'q', 'u', 'o', 't', ';']
  else if c = '\'' then ['&', 'a', 'p', 'o', 's', ';']
  else if c.toNat < 0x20 ∧ c ≠ '\t' ∧ c ≠ '\n' ∧ c ≠ '\r' then
    ['&', '#', 'x'] ++ upperHex c.toNat ++ [';']
  else [c]

/-- Text as it is written. -/
def escape (cs : List Char) : List Char := cs.flatMap escapeChar

/-- The number that hexadecimal digits of either case stand for. -/
def hexValue? (cs : List Char) : Option Nat :=
  if cs.isEmpty then none
  else cs.foldlM (fun n c =>
    if '0' ≤ c ∧ c ≤ '9' then some (n * 16 + (c.toNat - '0'.toNat))
    else if 'a' ≤ c ∧ c ≤ 'f' then some (n * 16 + (c.toNat - 'a'.toNat + 10))
    else if 'A' ≤ c ∧ c ≤ 'F' then some (n * 16 + (c.toNat - 'A'.toNat + 10))
    else none) 0

/-- The code point that the inside of a numbered entity stands for. -/
def entityPoint? : List Char → Option Nat
  | '#' :: 'x' :: '+' :: digits | '#' :: 'X' :: '+' :: digits => hexValue? digits
  | '#' :: 'x' :: digits | '#' :: 'X' :: digits => hexValue? digits
  | '#' :: digits => Decimal.natural? digits
  | _ => none

/-- The character that the inside of an entity stands for. -/
def entity? (cs : List Char) : Option Char :=
  if cs = ['a', 'm', 'p'] then some '&'
  else if cs = ['l', 't'] then some '<'
  else if cs = ['g', 't'] then some '>'
  else if cs = ['q', 'u', 'o', 't'] then some '"'
  else if cs = ['a', 'p', 'o', 's'] then some '\''
  else (entityPoint? cs).bind fun n => if n.isValidChar then some (Char.ofNat n) else none

/-- Reads text; `done` holds what it stands for so far in reverse, and `inside` the characters of
the entity being read in reverse, if any. -/
def unescapeFrom (done : List Char) (inside : Option (List Char)) :
    List Char → Except Expectation (List Char)
  | [] => match inside with
    | none => .ok done.reverse
    | some _ => .error .entityEnd
  | c :: rest => match inside with
    | none =>
      if c = '&' then unescapeFrom done (some []) rest else unescapeFrom (c :: done) none rest
    | some read =>
      if c = ';' then
        match entity? read.reverse with
        | some d => unescapeFrom (d :: done) none rest
        | none => .error (.entity (String.ofList read.reverse))
      else unescapeFrom done (some (c :: read)) rest

/-- What written text stands for. -/
def unescape (cs : List Char) : Except Expectation (List Char) := unescapeFrom [] none cs

/-- Whether a character may start a name. -/
def startsName (c : Char) : Bool := Unicode.isAlphabetic c || c == '_'

/-- Whether a character may continue a name. -/
def continuesName (c : Char) : Bool :=
  Unicode.isAlphanumeric c || c == '_' || c == '-' || c == '.'

/-- Whether an element can have the name. -/
def isName : List Char → Bool
  | [] => false
  | c :: rest => startsName c && rest.all continuesName

end Parcel.Xml
