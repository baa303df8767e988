import Parcel.Bytes
import Parcel.Error

/-!
# Drafts

A writer produces bytes until it is done or meets something that the format cannot carry. A
`Draft` keeps both: what was written, and why writing stopped early if it did. Drafts are appended
like byte strings; nothing is written after a stop.

## Main definitions

* `Parcel.Draft` — bytes written and the error that stopped the writing
* `Draft.finish` — the bytes of a draft that was not stopped
-/

namespace Parcel

/-- Bytes written so far, and the error that stopped the writing, if any. -/
structure Draft where
  /-- What was written. -/
  bytes : Bytes
  /-- Why the writing stopped early. -/
  stopped : Option Error
  deriving DecidableEq, Inhabited

namespace Draft

/-- A draft that writes the given bytes. -/
def of (s : Bytes) : Draft := ⟨s, none⟩

/-- A draft that writes nothing and stops. -/
def stop (e : Error) : Draft := ⟨[], some e⟩

/-- The draft `a` and after it `b`, which is not reached when `a` stops. -/
def append (a b : Draft) : Draft :=
  match a.stopped with
  | some _ => a
  | none => ⟨a.bytes ++ b.bytes, b.stopped⟩

instance : Append Draft := ⟨append⟩

/-- Goes on only when `condition` holds. -/
def require (condition : Bool) (e : Error) : Draft := if condition then of [] else stop e

/-- The bytes put through `f` as a whole; nothing is written when the draft stops. -/
def wrap (f : Bytes → Bytes) (a : Draft) : Draft :=
  match a.stopped with
  | some e => stop e
  | none => of (f a.bytes)

/-- The bytes, or the error that stopped the writing. -/
def finish (a : Draft) : Except Error Bytes :=
  match a.stopped with
  | some e => .error e
  | none => .ok a.bytes

end Draft

end Parcel
