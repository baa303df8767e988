import Parcel.Toml.Scalar
import Parcel.Toml.Text

/-!
# Reading TOML

A document is read line by line: blank lines and comments, headers, and keys with their items.
Arrays may go over several lines, tables between braces may not.

## Main definitions

* `Toml.value?` — an item
* `Toml.read?` — a document
-/

namespace Parcel.Toml

/-! ## Lines -/

/-- What follows the blanks. -/
def skipBlanks (s : List Char) : List Char := s.dropWhile isBlank

/-- What follows blanks, a comment if there is one, and the end of the line or of the document. -/
def endOfLine? (s : List Char) : Option (List Char) :=
  let rest := match skipBlanks s with
    | '#' :: rest => rest.dropWhile isPlain
    | rest => rest
  if rest.isEmpty then some [] else lineEnd? rest

/-- What follows blanks, line ends and comments; from inside a comment or not. -/
def skipLines? : Bool → List Char → Option (List Char)
  | inComment, [] => if inComment then none else some []
  | _, '\n' :: rest => skipLines? false rest
  | _, '\r' :: '\n' :: rest => skipLines? false rest
  | true, c :: rest => if isPlain c then skipLines? true rest else none
  | false, c :: rest =>
    if isBlank c then skipLines? false rest
    else if c = '#' then skipLines? true rest
    else some (c :: rest)

/-! ## Keys -/

/-- Whether a character can stand in a key without quotation marks. -/
def isKeyChar (c : Char) : Bool := c.isAlphanum || c == '-' || c == '_'

/-- One name of a key. -/
def name? (s : List Char) : Option (List Char × List Char) :=
  match s.takeWhile isKeyChar with
  | [] => singleLine? s
  | name => some (name, s.dropWhile isKeyChar)

/-- The greatest depth of arrays, of tables between braces, and of dotted keys, is below this. -/
def depthLimit : Nat := 80

/-- The names of a key with the blanks around them. Every name takes a character at least, so the
length is fuel enough. -/
def names? : Nat → List Char → Option (Key × List Char)
  | 0, _ => none
  | fuel + 1, s => do
    let (name, rest) ← name? (skipBlanks s)
    match skipBlanks rest with
    | '.' :: rest =>
      let (names, rest) ← names? fuel rest
      return (String.ofList name :: names, rest)
    | rest => return ([String.ofList name], rest)

/-- A key with the blanks around it. -/
def key? (s : List Char) : Option (Key × List Char) := do
  let (names, rest) ← names? (s.length + 1) s
  if names.length < depthLimit then return (names, rest) else none

/-! ## Items -/

/-- What follows the given character. -/
def eat? (c : Char) : List Char → Option (List Char)
  | [] => none
  | d :: rest => if d = c then some rest else none

mutual

/-- An item, inside so many arrays and tables. Every step takes a character at least, so the length
is fuel enough. -/
def item? : Nat → Nat → List Char → Option (Item × List Char)
  | 0, _, _ => none
  | fuel + 1, depth, s =>
    match s with
    | '"' :: _ | '\'' :: _ =>
      (string? s).map fun (text, rest) => (.text (String.ofList text), rest)
    | '[' :: rest =>
      if depth + 1 < depthLimit then
        (items? fuel (depth + 1) rest).map fun (items, rest) => (.array items, rest)
      else none
    | '\x7b' :: rest =>
      if depth + 1 < depthLimit then
        match skipBlanks rest with
        | '\x7d' :: rest => some (.table .braces [], rest)
        | rest => (entries? fuel (depth + 1) [] rest).map fun (t, rest) =>
            (.table .braces t, rest)
      else none
    | s => scalar? s

/-- The items of an array and the bracket that closes it. -/
def items? : Nat → Nat → List Char → Option (List Item × List Char)
  | 0, _, _ => none
  | fuel + 1, depth, s => do
    match ← skipLines? false s with
    | ']' :: rest => return ([], rest)
    | s =>
      let (item, rest) ← item? fuel depth s
      match ← skipLines? false rest with
      | ']' :: rest => return ([item], rest)
      | ',' :: rest =>
        let (items, rest) ← items? fuel depth rest
        return (item :: items, rest)
      | _ => none

/-- The entries of a table between braces behind those read so far, and the brace that closes
it. -/
def entries? : Nat → Nat → Table → List Char → Option (Table × List Char)
  | 0, _, _, _ => none
  | fuel + 1, depth, t, s => do
    let (key, rest) ← key? s
    let rest ← eat? '=' rest
    let (item, rest) ← item? fuel depth (skipBlanks rest)
    let t ← t.insert? key item
    match skipBlanks rest with
    | '\x7d' :: rest => return (t, rest)
    | ',' :: rest => entries? fuel depth t rest
    | _ => none

end

/-- An item. -/
def value? (s : List Char) : Option (Item × List Char) := item? (s.length + 1) 0 s

/-! ## Documents -/

/-- How far a document has been read: the table so far, and the header in force. -/
structure Progress where
  /-- The table so far. -/
  table : Table
  /-- The last header. -/
  header : Key

/-- A header in single brackets, or in double ones. -/
def header? (s : List Char) : Option (Bool × Key × List Char) := do
  match s with
  | '[' :: rest =>
    let (key, rest) ← key? rest
    let rest ← eat? ']' rest
    let rest ← eat? ']' rest
    return (true, key, rest)
  | s =>
    let (key, rest) ← key? s
    let rest ← eat? ']' rest
    return (false, key, rest)

/-- What one line adds, from its first character that is no blank on, and what follows the line. -/
def line? (p : Progress) (s : List Char) : Option (Progress × List Char) := do
  match s with
  | '#' :: _ | '\n' :: _ | '\r' :: _ => return (p, ← endOfLine? s)
  | '[' :: rest =>
    let (isElement, key, rest) ← header? rest
    let rest ← endOfLine? rest
    let table ← if isElement then p.table.openElement? key else p.table.openTable? key
    return (⟨table, key⟩, rest)
  | s =>
    let (key, rest) ← key? s
    let rest ← eat? '=' rest
    let (item, rest) ← value? (skipBlanks rest)
    let rest ← endOfLine? rest
    return ({ p with table := ← p.table.insertUnder? p.header key item }, rest)

/-- The rest of a document. Every line takes a character at least, so the length is fuel enough. -/
def documentLines? : Nat → Progress → List Char → Option Table
  | 0, _, _ => none
  | fuel + 1, p, s =>
    match skipBlanks s with
    | [] => some p.table
    | s => do
      let (p, rest) ← line? p s
      documentLines? fuel p rest

/-- The table of a document; a byte order mark at its start does not count. -/
def read? (s : List Char) : Option Table :=
  let s := match s with
    | '\ufeff' :: rest => rest
    | s => s
  documentLines? (s.length + 1) ⟨[], []⟩ s

end Parcel.Toml
