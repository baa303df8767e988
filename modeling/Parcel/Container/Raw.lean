import Parcel.Delimited.Reader

/-!
# Retained text

A container can keep the text that it was read from. The text is scanned once, at the first demand;
from then on the entries are at hand. A view shows one entry as it is written.

## Main definitions

* `Parcel.RawText` — a text with its entries, once they are known
* `RawText.entries`, `RawText.values`
* `Parcel.View`
-/

namespace Parcel

open Delimited (Entry)

/-- The bytes of a text, and its entries as soon as they have been asked for. -/
structure RawText where
  /-- The text as it was read. -/
  bytes : Bytes
  /-- The entries that a scan has found. -/
  known : Option { entries : List Entry // Delimited.index bytes = .ok entries }

namespace RawText

/-- A text that has not been scanned. -/
def of (bytes : Bytes) : RawText := ⟨bytes, none⟩

/-- Whether the entries are at hand. -/
def isIndexed (r : RawText) : Bool := r.known.isSome

/-- The entries of the text. -/
def entries (r : RawText) : Except Error (List Entry) :=
  match r.known with
  | some found => .ok found.val
  | none => (Delimited.index r.bytes).mapError (·.error)

/-- The text with its entries at hand, if it has a readable list of them. -/
def indexed (r : RawText) : RawText :=
  match r.known with
  | some _ => r
  | none =>
    match h : Delimited.index r.bytes with
    | .ok entries => ⟨r.bytes, some ⟨entries, h⟩⟩
    | .error _ => r

/-- All values of the text. -/
def values (r : RawText) : Except Error (List Named) := do
  (← r.entries).mapM fun e => (e.materialize 0).mapError (·.error)

end RawText

/-- An entry of a retained text. -/
abbrev View := Entry

namespace View

/-- The name, which reads as empty when it is not valid UTF-8. -/
def nameText (v : View) : String := (Utf8.decode v.name.bytes).toOption.getD ""

/-- The value as written, when it is valid UTF-8. -/
def text? (v : View) : Option String := (Utf8.decode v.value.bytes).toOption

/-- The value that the view shows. -/
def read (v : View) : Except Error Value :=
  (Delimited.decodeValue v.kind v.value.bytes 0).mapError (·.error)

end View

/-- The first entry of the name `key`. -/
def RawText.view? (key : String) (r : RawText) : Option View :=
  match r.entries with
  | .ok entries => entries.find? fun e => e.name.bytes == Utf8.encode key
  | .error _ => none

/-- All entries; none when the text cannot be scanned. -/
def RawText.views (r : RawText) : List View := r.entries.toOption.getD []

end Parcel
