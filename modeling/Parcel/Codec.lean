import Parcel.Delimited.Reader
import Parcel.Delimited.Writer
import Parcel.Json.Reader
import Parcel.Json.Writer
import Parcel.MessagePack.Reader
import Parcel.MessagePack.Writer
import Parcel.Xml.Reader
import Parcel.Xml.Writer

/-!
# Codecs

Documents to bytes and back in any of the four formats.

## Main definitions

* `Codec.encode`, `Codec.decode` — one format
* `Codec.encodeInto` — encoding behind what a buffer already holds
* `Codec.decodeAny` — the format recognised by the first bytes
-/

namespace Parcel.Codec

/-- The draft of a document. JSON and MessagePack can carry every document. -/
def draft : Format → Document → Draft
  | .text, d => Delimited.encode d
  | .json, d => .of (Json.encode d)
  | .xml, d => Xml.encode d
  | .msgpack, d => .of (MessagePack.encode d)

/-- The encoding of a document. -/
def encode (f : Format) (d : Document) : Except Error Bytes := (draft f d).finish

/-- Appends the encoding of a document to a `buffer`. After an error the buffer holds what was
written before it. -/
def encodeInto (f : Format) (buffer : Bytes) (d : Document) : Bytes × Except Error Unit :=
  let a := draft f d
  (buffer ++ a.bytes, a.finish.map fun _ => ())

/-- Why the MessagePack input `s` was not read. -/
def messagePackReason (s : Bytes) : MessagePack.Fault → Reason
  | .malformed => .quoted "MessagePack: " (.messagePack s)
  | .tooDeep => "MessagePack: containers nested deeper than " ++ Decimal.text Document.depthLimit

/-- The document that an input of a format holds. -/
def decode : Format → Bytes → Except Error Document
  | .text, s => (Delimited.decode s).mapError Delimited.Fault.error
  | .json, s => match Json.decode? s with
    | some d => .ok d
    | none => .error (.deserializationFailed (.quoted "JSON: " (.json s)))
  | .xml, s => (Xml.decode s).mapError fun fault => .deserializationFailed fault.message
  | .msgpack, s => (MessagePack.decode s).mapError fun fault =>
    .deserializationFailed (messagePackReason s fault)

theorem decode_json_eq_ok_iff {s : Bytes} {d : Document} :
    decode .json s = .ok d ↔ Json.decode? s = some d := by
  rw [decode]
  cases Json.decode? s with
  | none => exact ⟨nofun, nofun⟩
  | some found => rw [Except.ok.injEq, Option.some.injEq]

/-- The document that an input holds, in the format that it starts like. -/
def decodeAny (s : Bytes) : Except Error (Format × Document) :=
  match Format.detect? s with
  | none => .error (.invalidFormat "unrecognized input")
  | some f => (decode f s).map (f, ·)

end Parcel.Codec
