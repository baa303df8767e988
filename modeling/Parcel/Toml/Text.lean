import Parcel.Hex

/-!
# TOML strings

Basic strings stand between double quotation marks and know escapes; literal strings stand between
single ones and know none. Tripled marks let a string go over several lines.

## Main definitions

* `Toml.quote` — text as a basic string
* `Toml.string?` — any of the four forms
-/

namespace Parcel.Toml

/-! ## Writing -/

/-- Four hexadecimal digits in upper case. -/
def fourDigits (n : Nat) : List Char :=
  let digits := (Nat.toDigits 16 n).map Char.toUpper
  List.replicate (4 - digits.length) '0' ++ digits

/-- A character inside a basic string. -/
def escape (c : Char) : List Char :=
  if c = '\x08' then ['\\', 'b']
  else if c = '\t' then ['\\', 't']
  else if c = '\n' then ['\\', 'n']
  else if c = '\x0c' then ['\\', 'f']
  else if c = '\r' then ['\\', 'r']
  else if c = '"' then ['\\', '"']
  else if c = '\\' then ['\\', '\\']
  else if c.toNat ≤ 0x1F ∨ c.toNat = 0x7F then '\\' :: 'u' :: fourDigits c.toNat
  else [c]

/-- Text as a basic string. -/
def quote (cs : List Char) : List Char := '"' :: cs.flatMap escape ++ ['"']

/-! ## Reading -/

/-- Whether a character is a blank. -/
def isBlank (c : Char) : Bool := c == ' ' || c == '\t'

/-- Whether a character stands for itself in strings and comments: no control other than the tab. -/
def isPlain (c : Char) : Bool := c == '\t' || (0x20 ≤ c.toNat && c.toNat != 0x7F)

/-- What stands for a character after a backslash. -/
def unescape? : Char → Option Char
  | 'b' => some '\x08'
  | 't' => some '\t'
  | 'n' => some '\n'
  | 'f' => some '\x0c'
  | 'r' => some '\r'
  | '"' => some '"'
  | '\\' => some '\\'
  | _ => none

/-- The character of a code point in hexadecimal digits. -/
def codePoint? (digits : List Char) : Option Char := do
  let values ← digits.mapM Hex.charValue?
  let n := values.foldl (fun n v => 16 * n + v) 0
  if n.isValidChar then some (Char.ofNat n) else none

/-- The text of a basic string after its opening mark, behind what has been read in reverse. -/
def basic? (done : List Char) : List Char → Option (List Char × List Char)
  | [] => none
  | '"' :: rest => some (done.reverse, rest)
  | '\\' :: 'u' :: a :: b :: c :: d :: rest =>
    match codePoint? [a, b, c, d] with
    | some char => basic? (char :: done) rest
    | none => none
  | '\\' :: 'U' :: a :: b :: c :: d :: e :: f :: g :: h :: rest =>
    match codePoint? [a, b, c, d, e, f, g, h] with
    | some char => basic? (char :: done) rest
    | none => none
  | '\\' :: c :: rest =>
    match unescape? c with
    | some char => basic? (char :: done) rest
    | none => none
  | c :: rest => if isPlain c && c != '\\' then basic? (c :: done) rest else none

/-- The text of a literal string after its opening mark, behind what has been read in reverse. -/
def literal? (done : List Char) : List Char → Option (List Char × List Char)
  | [] => none
  | '\'' :: rest => some (done.reverse, rest)
  | c :: rest => if isPlain c then literal? (c :: done) rest else none

/-- What follows a line end, if there is one. -/
def lineEnd? : List Char → Option (List Char)
  | '\n' :: rest => some rest
  | '\r' :: '\n' :: rest => some rest
  | _ => none

/-- What follows blanks and line ends. -/
def skipBlankLines : List Char → List Char
  | '\r' :: '\n' :: rest => skipBlankLines rest
  | c :: rest => if isBlank c || c == '\n' then skipBlankLines rest else c :: rest
  | [] => []

/-- What follows a backslash that joins lines: blanks, a line end, and all blanks and line ends
after it. -/
def joined? (s : List Char) : Option (List Char) :=
  (lineEnd? (s.dropWhile isBlank)).map skipBlankLines

/-- How a string over several lines goes on. -/
inductive Part where
  /-- With some characters. -/
  | more (cs : List Char)
  /-- With nothing; it ends in some quotation `marks` that belong to it. -/
  | finish (marks : Nat)

/-- One part of a string over several lines. Of three to five marks in a row the last three end the
string, and the others belong to it. -/
def part? (mark : Char) (escapes : Bool) : List Char → Option (Part × List Char)
  | [] => none
  | c :: rest =>
    if c = mark then
      let marks := (rest.takeWhile (· == mark)).length + 1
      let rest := rest.dropWhile (· == mark)
      if marks < 3 then some (.more (List.replicate marks mark), rest)
      else if marks < 6 then some (.finish (marks - 3), rest)
      else none
    else match lineEnd? (c :: rest) with
    | some rest => some (.more ['\n'], rest)
    | none =>
      if escapes && c == '\\' then
        match rest with
        | 'u' :: a :: b :: c :: d :: rest => (codePoint? [a, b, c, d]).map (.more [·], rest)
        | 'U' :: a :: b :: c :: d :: e :: f :: g :: h :: rest =>
          (codePoint? [a, b, c, d, e, f, g, h]).map (.more [·], rest)
        | c :: after => match unescape? c with
          | some char => some (.more [char], after)
          | none => (joined? rest).map (.more [], ·)
        | [] => none
      else if isPlain c then some (.more [c], rest)
      else none

/-- The text of a string over several lines, behind what has been read in reverse. Every part takes
a character at least, so the length is fuel enough. -/
def lines? (mark : Char) (escapes : Bool) :
    Nat → List Char → List Char → Option (List Char × List Char)
  | 0, _, _ => none
  | fuel + 1, done, s => do
    match ← part? mark escapes s with
    | (.more cs, rest) => lines? mark escapes fuel (cs.reverse ++ done) rest
    | (.finish marks, rest) =>
      return (done.reverse ++ List.replicate marks mark, rest)

/-- The text of a string over several lines after its opening marks; a line end right after them
does not count. -/
def multiline? (mark : Char) (escapes : Bool) (s : List Char) :
    Option (List Char × List Char) :=
  lines? mark escapes (s.length + 1) [] ((lineEnd? s).getD s)

/-- A string on one line. -/
def singleLine? : List Char → Option (List Char × List Char)
  | '"' :: rest => basic? [] rest
  | '\'' :: rest => literal? [] rest
  | _ => none

/-- A string of any form. -/
def string? : List Char → Option (List Char × List Char)
  | '"' :: '"' :: '"' :: rest => multiline? '"' true rest
  | '\'' :: '\'' :: '\'' :: rest => multiline? '\'' false rest
  | s => singleLine? s

end Parcel.Toml
