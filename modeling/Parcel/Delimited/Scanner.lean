import Parcel.Delimited.Fault
import Parcel.Format
import Parcel.Number.Decimal
import Parcel.Outcome
import Parcel.Unicode.Blank
import Parcel.Value

/-!
# Scanning the text format

One pass over an input finds the header fields and, for every value, its name, its kind and the
bytes it is written as; no value is decoded. White space between the parts does not matter, a block
has single or double braces, and the semicolon after a block may be missing.

## Main definitions

* `Delimited.Entry` — where a value stands in the input
* `Delimited.scan` — the header and the entries of an input
* `Delimited.scanHeader` — the header alone
-/

namespace Parcel.Delimited

/-- A place in the input: how many bytes precede it, and the bytes that follow. -/
structure Cursor where
  /-- Number of bytes before this place. -/
  offset : Nat
  /-- The bytes from this place on. -/
  rest : Bytes
  deriving DecidableEq, Inhabited

namespace Cursor

/-- The place after the white space at `offset`. -/
def skipBlanksFrom (offset : Nat) : Bytes → Cursor
  | b :: rest => if Bytes.isBlank b then skipBlanksFrom (offset + 1) rest else ⟨offset, b :: rest⟩
  | [] => ⟨offset, []⟩

/-- The place after the white space here. -/
def skipBlanks (c : Cursor) : Cursor := skipBlanksFrom c.offset c.rest

/-- The place after the byte `b`, when it stands here. -/
def eat? (b : UInt8) (c : Cursor) : Option Cursor :=
  match c.rest with
  | x :: rest => if x = b then some ⟨c.offset + 1, rest⟩ else none
  | [] => none

/-- The place after the byte `b`, when it stands here, or else this place. -/
def eatOptional (b : UInt8) (c : Cursor) : Cursor := (c.eat? b).getD c

/-- The place after the bytes of `mark`, when they stand here. -/
def eatAll? (mark : Bytes) (c : Cursor) : Option Cursor :=
  (mark.isPrefixOf? c.rest).map fun rest => ⟨c.offset + mark.length, rest⟩

/-- The place after the character `char`, which has to stand here. -/
def expect (char : Char) (c : Cursor) : Except Fault Cursor :=
  match c.eat? (Bytes.ofChar char) with
  | some d => .ok d
  | none => .error (.malformed c.offset (.char char))

/-- The bytes before the next occurrence of `char`, and the place after it. -/
def upTo (char : Char) (c : Cursor) : Except Fault (Slice × Cursor) :=
  let stop := Bytes.ofChar char
  match c.rest.dropWhile (· != stop) with
  | [] => .error (.malformed c.offset (.ahead char))
  | _ :: rest =>
    let bytes := c.rest.takeWhile (· != stop)
    .ok (⟨c.offset, bytes⟩, ⟨c.offset + bytes.length + 1, rest⟩)

/-- The bytes before the next end of a pair, and the place after it. -/
def upToTerminator (c : Cursor) : Except Fault (Slice × Cursor) :=
  match Bytes.offsetOfPair? (Bytes.ofChar ']') (Bytes.ofChar ';') c.rest with
  | none => .error (.malformed c.offset .terminator)
  | some n => .ok (⟨c.offset, c.rest.take n⟩, ⟨c.offset + n + 2, c.rest.drop (n + 2)⟩)

theorem length_skipBlanksFrom_le (offset : Nat) (s : Bytes) :
    (skipBlanksFrom offset s).rest.length ≤ s.length := by
  induction s generalizing offset with
  | nil => simp [skipBlanksFrom]
  | cons b rest ih =>
    rw [skipBlanksFrom]
    split
    · exact Nat.le_succ_of_le (ih _)
    · exact Nat.le_refl _

theorem length_skipBlanks_le (c : Cursor) : c.skipBlanks.rest.length ≤ c.rest.length :=
  length_skipBlanksFrom_le _ _

theorem length_of_upTo {char : Char} {c d : Cursor} {s : Slice} (h : c.upTo char = .ok (s, d)) :
    d.rest.length ≤ c.rest.length := by
  rw [upTo] at h
  split at h
  · cases h
  · next b rest heq =>
    cases h
    have := (List.dropWhile_sublist (fun x => x != Bytes.ofChar char) (l := c.rest)).length_le
    rw [heq] at this
    exact Nat.le_of_succ_le this

theorem length_of_upToTerminator {c d : Cursor} {s : Slice}
    (h : c.upToTerminator = .ok (s, d)) : d.rest.length ≤ c.rest.length := by
  rw [upToTerminator] at h
  split at h
  · cases h
  · cases h
    simp

end Cursor

/-- A text read from UTF-8; `part` names it in faults. -/
def text (part : String) (s : Bytes) : Except Fault String :=
  (Utf8.decode s).mapError (.notText part)

/-- Where a value stands in the input: its name, its kind, and the bytes that it is written as. -/
structure Entry where
  /-- The name. -/
  name : Slice
  /-- The kind that the type tag names. -/
  kind : Kind
  /-- The value as written. -/
  value : Slice
  deriving DecidableEq

/-- A header field as read: its value under the field that its number names, if any. -/
abbrev FieldPair := Option Field × String

/-- Reads a pair of the header block after its opening bracket. -/
def fieldPair (c : Cursor) : Except Fault (FieldPair × Cursor) := do
  let (number, c) ← c.upTo ','
  let (value, c) ← c.upToTerminator
  let number ← text "header field id" number.bytes
  let value ← text "header value" value.bytes
  let field := (Decimal.natural? (Unicode.trimChars number.toList)).bind Field.ofNumber?
  return ((field, value), c)

/-- Reads a pair of the data block after its opening bracket. -/
def valuePair (c : Cursor) : Except Fault (Entry × Cursor) := do
  let (name, c) ← c.upTo ','
  let (tag, c) ← c.upTo ','
  let (value, c) ← c.upToTerminator
  let tag ← text "type tag" (Bytes.trimBlanks tag.bytes)
  -- the name is only looked at once the tag is known
  match (Decimal.natural? tag.toList).bind Kind.ofTag? with
  | none => .error (.malformed c.offset (.tag tag))
  | some kind =>
    if name.bytes.isEmpty then .error (.malformed c.offset .name)
    else .ok (⟨name, kind, value⟩, c)

/-- A reader of the inside of a pair, which never lengthens what is left to read. -/
structure PairReader (α : Type) where
  /-- Reads a pair after its opening bracket. -/
  read : Cursor → Except Fault (α × Cursor)
  /-- What is left behind what `read` takes is no longer than what there was. -/
  length_le : ∀ {c d : Cursor} {a : α}, read c = .ok (a, d) → d.rest.length ≤ c.rest.length

/-- The reader of header fields. -/
def fieldReader : PairReader FieldPair where
  read := fieldPair
  length_le h := by
    obtain ⟨_, h₁, h⟩ := Except.exists_of_bind_eq_ok h
    obtain ⟨_, h₂, h⟩ := Except.exists_of_bind_eq_ok h
    obtain ⟨_, _, h⟩ := Except.exists_of_bind_eq_ok h
    obtain ⟨_, _, h⟩ := Except.exists_of_bind_eq_ok h
    cases h
    exact Nat.le_trans (Cursor.length_of_upToTerminator h₂) (Cursor.length_of_upTo h₁)

/-- The reader of values. -/
def valueReader : PairReader Entry where
  read := valuePair
  length_le h := by
    obtain ⟨_, h₁, h⟩ := Except.exists_of_bind_eq_ok h
    obtain ⟨_, h₂, h⟩ := Except.exists_of_bind_eq_ok h
    obtain ⟨_, h₃, h⟩ := Except.exists_of_bind_eq_ok h
    obtain ⟨_, _, h⟩ := Except.exists_of_bind_eq_ok h
    have h₄ := Nat.le_trans (Cursor.length_of_upToTerminator h₃)
      (Nat.le_trans (Cursor.length_of_upTo h₂) (Cursor.length_of_upTo h₁))
    split at h
    · cases h
    · split at h
      · cases h
      · cases h
        exact h₄

/-- Reads the opening of a block after its mark. -/
def openBlock (c : Cursor) : Except Fault Cursor := do
  let c ← c.skipBlanks.expect '='
  let c ← c.skipBlanks.expect '\x7b'
  return c.eatOptional (Bytes.ofChar '\x7b')

/-- Reads the end of a block after its first closing brace. -/
def closeBlock (c : Cursor) : Cursor :=
  (c.eatOptional (Bytes.ofChar '\x7d')).skipBlanks.eatOptional (Bytes.ofChar ';')

/-- Reads pairs with `reader` up to the end of the block. -/
def pairs {α : Type} (reader : PairReader α) (block : Block) (c : Cursor) :
    Except Fault (List α × Cursor) :=
  match hrest : c.skipBlanks.rest with
  | [] => .error (.malformed c.skipBlanks.offset (.pairOrEnd block))
  | b :: rest =>
    if b = Bytes.ofChar '[' then
      match _h : reader.read ⟨c.skipBlanks.offset + 1, rest⟩ with
      | .error e => .error e
      | .ok (a, next) =>
        match pairs reader block next with
        | .error e => .error e
        | .ok (as, last) => .ok (a :: as, last)
    else if b = Bytes.ofChar '\x7d' then .ok ([], closeBlock ⟨c.skipBlanks.offset + 1, rest⟩)
    else .error (.malformed c.skipBlanks.offset (.pairOrEnd block))
termination_by c.rest.length
decreasing_by
  have h₁ := reader.length_le _h
  have h₂ := c.length_skipBlanks_le
  rw [hrest] at h₂
  simp only [List.length_cons] at h₂
  exact Nat.lt_of_le_of_lt h₁ h₂

/-- Reads a block with `reader` after its mark. -/
def block {α : Type} (reader : PairReader α) (kind : Block) (c : Cursor) :
    Except Fault (List α × Cursor) :=
  openBlock c >>= pairs reader kind

/-- The header that header pairs give; pairs of unknown fields are ignored. -/
def headerOf (fields : List FieldPair) : Header :=
  Header.setAll {} (fields.filterMap fun (field, value) => field.map (·, value))

/-- Reads the header block, if there is one, and the white space after it. -/
def headerPart (s : Bytes) : Except Fault (Option Header × Cursor) :=
  let c := Cursor.skipBlanks ⟨0, s⟩
  match c.eatAll? Format.headerMark with
  | none => .ok (none, c)
  | some c => do
    let (fields, c) ← block fieldReader .header c
    return (some (headerOf fields), c.skipBlanks)

/-- What a scan finds. -/
structure Scan where
  /-- The header; that of a new container when there is no header block. -/
  header : Header
  /-- The values in order. -/
  entries : List Entry

/-- The header and the entries of an input. -/
def scan (s : Bytes) : Except Fault Scan := do
  let (header?, c) ← headerPart s
  let (entries, c) ← match c.eatAll? Format.dataMark, header? with
    | some c, _ => do
      let (entries, c) ← block valueReader .data c
      pure (entries, c.skipBlanks)
    | none, some _ => pure ([], c)
    | none, none => .error (.malformed c.offset .mark)
  if c.rest.isEmpty then return ⟨header?.getD {}, entries⟩
  else .error (.malformed c.offset .finish)

/-- The entries of an input. -/
def index (s : Bytes) : Except Fault (List Entry) := (scan s).map (·.entries)

/-- The header of an input; what follows the header block is not looked at, unless there is no
header block. -/
def scanHeader (s : Bytes) : Except Fault Header := do
  let (header?, c) ← headerPart s
  match header? with
  | some header => return header
  | none =>
    if Format.dataMark.isPrefixOf c.rest then return {}
    else .error (.malformed c.offset .mark)

end Parcel.Delimited
