import Parcel.Bytes

/-!
# TOML documents

A TOML document is a table of items by name. A table can be given under a header, between braces,
or by dotted keys, and the tables on the way to a header are implied by it. How a table was given
decides whether something may still be added to it.

## Main definitions

* `Toml.Item`, `Toml.Table`
* `Table.insert?` — a dotted key with its item
* `Table.openTable?`, `Table.openElement?` — a header
* `Table.insertUnder?` — a dotted key with its item under a header
-/

namespace Parcel.Toml

/-- How a table was given. -/
inductive Origin where
  /-- Under a header of its own. -/
  | header
  /-- On the way to a header. -/
  | implied
  /-- By dotted keys. -/
  | dotted
  /-- Between braces. -/
  | braces
  deriving DecidableEq, Inhabited

/-- What stands under a key. -/
inductive Item where
  /-- Text. -/
  | text (s : String)
  /-- An integer of 64 bits. -/
  | integer (n : Int)
  /-- A floating-point number. -/
  | float (bits : UInt64)
  /-- A truth value. -/
  | boolean (b : Bool)
  /-- A date, a time, or both. -/
  | moment (text : String)
  /-- A list of items. -/
  | array (items : List Item)
  /-- The `tables` that headers in double brackets have given, the last one first. -/
  | elements (tables : List Item)
  /-- A table. -/
  | table (origin : Origin) (entries : List (String × Item))

instance : Inhabited Item := ⟨.boolean false⟩

/-- Items by name, in the order in which they came. -/
abbrev Table := List (String × Item)

/-- A dotted key. -/
abbrev Key := List String

namespace Table

/-- The table with `item` under a `key` that it has. -/
def replace (key : String) (item : Item) (t : Table) : Table :=
  t.map fun (k, old) => if k = key then (k, item) else (k, old)

/-- The table with `item` under a `key` that it does not have. -/
def add? (key : String) (item : Item) (t : Table) : Option Table :=
  if (t.lookup key).isSome then none else some (t ++ [(key, item)])

/-- The table with `item` under a dotted key, where the name `last` is given apart. The tables on
the way have to be given by dotted keys or be implied, and the last of them by dotted keys. -/
def insertFrom? (origin : Origin) (last : String) (item : Item) : Key → Table → Option Table
  | [], t => if origin = .dotted then t.add? last item else none
  | name :: rest, t =>
    match t.lookup name with
    | none => do
      let inner ← insertFrom? .dotted last item rest []
      return t ++ [(name, .table .dotted inner)]
    | some (.table .dotted inner) => do
      return t.replace name (.table .dotted (← insertFrom? .dotted last item rest inner))
    | some (.table .implied inner) => do
      return t.replace name (.table .implied (← insertFrom? .implied last item rest inner))
    | some (.elements (.table o inner :: others)) => do
      let inner ← insertFrom? o last item rest inner
      return t.replace name (.elements (.table o inner :: others))
    | some _ => none

/-- The table with an item under a dotted key. -/
def insert? (key : Key) (item : Item) (t : Table) : Option Table :=
  match key.getLast? with
  | none => none
  | some last => insertFrom? .dotted last item key.dropLast t

/-- Changes the table that a key leads to. Tables on the way that are missing are implied. -/
def change? (f : Table → Option Table) : Key → Table → Option Table
  | [], t => f t
  | name :: rest, t =>
    match t.lookup name with
    | none => do return t ++ [(name, .table .implied (← change? f rest []))]
    | some (.table .braces _) => none
    | some (.table o inner) => do return t.replace name (.table o (← change? f rest inner))
    | some (.elements (.table o inner :: others)) => do
      return t.replace name (.elements (.table o (← change? f rest inner) :: others))
    | some _ => none

/-- The table with a header for `name`: a new table, or one that was only implied so far. -/
def openName? (name : String) (t : Table) : Option Table :=
  match t.lookup name with
  | none => some (t ++ [(name, .table .header [])])
  | some (.table .implied inner) => some (t.replace name (.table .header inner))
  | some _ => none

/-- The table with a header in double brackets for `name`: one more table. -/
def openNameElement? (name : String) (t : Table) : Option Table :=
  match t.lookup name with
  | none => some (t ++ [(name, .elements [.table .header []])])
  | some (.elements tables) => some (t.replace name (.elements (.table .header [] :: tables)))
  | some _ => none

/-- The table with a header. -/
def openTable? (key : Key) (t : Table) : Option Table :=
  t.change? (openName? (key.getLastD "")) key.dropLast

/-- The table with a header in double brackets. -/
def openElement? (key : Key) (t : Table) : Option Table :=
  t.change? (openNameElement? (key.getLastD "")) key.dropLast

/-- The table with an item under a dotted key below a header. -/
def insertUnder? (header key : Key) (item : Item) (t : Table) : Option Table :=
  t.change? (insert? key item) header

end Table

end Parcel.Toml
