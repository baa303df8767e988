import Parcel.Codec
import Parcel.Container.Values
import Parcel.Pool

/-!
# Containers on the wire

A container is encoded into a buffer that its pool supplies. It takes over what an input holds, all
at once or with the values deferred; an input that cannot be read leaves it as it was. A copy is
made by way of the text format.

## Main definitions

* `Container.serialize`, `Container.serializeText`
* `Container.deserialize`, `Container.deserializeAs`, `Container.parseLazy`
* `Container.copy`
-/

namespace Parcel.Container

/-! ## Writing -/

/-- A guess at the length of an encoding. -/
def estimate (d : Document) : Nat :=
  d.values.foldr (fun n rest => n.name.utf8ByteSize + 8 + max n.value.heapSize 8 + rest) 64

/-- The encoding of header and values in the format `f`. The buffer goes back to the pool when they
cannot be encoded. -/
def serialize [Memory] (f : Format) (c : Container) (pool : Pool) :
    Except Error Bytes × Container × Pool :=
  match c.snapshot with
  | (.error e, c) => (.error e, c, pool)
  | (.ok d, c) =>
    match pool.acquire (estimate d) with
    | (.error e, pool) => (.error e, c, pool)
    | (.ok buffer, pool) =>
      match Codec.encodeInto f buffer.content d with
      | (content, .error e) => (.error e, c, pool.release (buffer.fill content))
      | (content, .ok ()) => (.ok content, c, pool)

/-- The text that the encoding `s` is the UTF-8 form of. -/
def encodedText (f : Format) (s : Bytes) : Except Error String :=
  (Utf8.decode s).mapError fun fault =>
    .encodingError (f.name ++ " output is not valid UTF-8: " ++ fault.message)

/-- The encoding as text, in a format that is made of characters. -/
def serializeText [Memory] (f : Format) (c : Container) (pool : Pool) :
    Except Error String × Container × Pool :=
  if !f.isTextual then
    (.error (.invalidFormat (f.name ++ " output is binary, not a string")), c, pool)
  else
    let (encoded, c, pool) := c.serialize f pool
    (encoded.bind (encodedText f), c, pool)

/-- A container of header and values, or of the header only unless `withValues`, under the same
policy and settings, made by way of the text format. -/
def copy [Memory] (withValues : Bool) (c : Container) (pool : Pool) :
    Except Error Container × Container × Pool :=
  match c.snapshot with
  | (.error e, c) => (.error e, c, pool)
  | (.ok whole, c) =>
    let d : Document := if withValues then whole else ⟨whole.header, []⟩
    match pool.acquire (estimate d) with
    | (.error e, pool) => (.error e, c, pool)
    | (.ok buffer, pool) =>
      let (content, written) := Codec.encodeInto .text buffer.content d
      let read := written.bind fun _ => Codec.decode .text content
      let made := read.map fun d => { ofDocument c.policy d with config := c.config }
      (made, c, pool.release (buffer.fill content))

/-! ## Reading -/

/-- Refuses an input that is larger than `maxBytes` of the settings. -/
def checkSize (s : Bytes) (c : Container) : Except Error Unit :=
  if s.length ≤ c.config.maxBytes then .ok ()
  else .error (.deserializationFailed ("input of " ++ Decimal.text s.length ++
    " bytes exceeds the " ++ Decimal.text c.config.maxBytes ++ " byte limit"))

/-- The container with the contents of the document `d`, and the text `raw` it came from. -/
def holdingDocument (d : Document) (raw : Option RawText) (c : Container) : Container :=
  { c with header := d.header, content := .held (.ofList c.policy d.values) raw }

/-- Takes over what the input `s` holds in the format `f`. -/
def deserializeAs (s : Bytes) (f : Format) (c : Container) : Except Error Unit × Container :=
  match c.checkSize s >>= fun _ => Codec.decode f s with
  | .error e => (.error e, c)
  | .ok d =>
    let raw := if f = .text ∧ c.config.retainsRaw then some (RawText.of s) else none
    (.ok (), c.holdingDocument d raw)

/-- Takes over what an input holds, in the format that it starts like. -/
def deserialize (s : Bytes) (c : Container) : Except Error Unit × Container :=
  match Format.detect? s with
  | none => (.error (.invalidFormat "input matches no supported format"), c)
  | some f => c.deserializeAs s f

/-- Takes over the header of a text, and defers its values. -/
def parseLazy (s : Bytes) (c : Container) : Except Error Unit × Container :=
  match c.checkSize s with
  | .error e => (.error e, c)
  | .ok () =>
    if Format.detect? s ≠ some .text then
      (.error (.invalidFormat "lazy parsing needs the text format"), c)
    else
      match (Delimited.scanHeader s).mapError (·.error) with
      | .error e => (.error e, c)
      | .ok header => (.ok (), { c with header, content := .deferred (.of s) })

end Parcel.Container
