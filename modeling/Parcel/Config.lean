import Parcel.Delimited.Writer
import Parcel.Unicode.Blank

/-!
# Configuration

A container is configured by the message type and version of new headers, the format it is saved in
when none is named, whether it keeps the text it was read from, and the size of the largest input
it accepts.

## Main definitions

* `Parcel.Config`
* `Config.validate` — the first rule that a configuration breaks
-/

namespace Parcel

/-- The settings of a container. -/
structure Config where
  /-- The message type of new containers. -/
  messageType : String := Header.defaultMessageType
  /-- The version of new containers. -/
  version : String := Header.defaultVersion
  /-- The format of an encoding when none is named. -/
  format : Format := .text
  /-- Whether the text that a container was read from is kept. -/
  retainsRaw : Bool := true
  /-- Size of the largest input that is accepted, in bytes. -/
  maxBytes : Nat := 64 * 1024 * 1024
  deriving DecidableEq, Inhabited

namespace Config

/-- The settings of a container that was given none. -/
def initial : Config := {}

/-- The rules that a configuration can break. -/
inductive Invalid where
  /-- The message type is blank. -/
  | emptyMessageType
  /-- The version is blank. -/
  | emptyVersion
  /-- The header value `value` holds the text that ends a pair of the text format. -/
  | unencodableHeader (value : String)
  /-- The size limit cannot hold even an empty document. -/
  | limitTooSmall
  deriving DecidableEq, Inhabited

/-- The wording of a broken rule. -/
def Invalid.message : Invalid → String
  | emptyMessageType => "default_message_type must not be empty"
  | emptyVersion => "default_version must not be empty"
  | unencodableHeader value => "header default '" ++ value ++ "' contains \"];\""
  | limitTooSmall => "max_document_bytes must be at least 16"

/-- The least size limit. -/
def leastMaxBytes : Nat := 16

/-- Whether a header value can be written in the text format. -/
def isEncodable (s : String) : Bool := !Delimited.hasTerminator (Utf8.encode s)

/-- Fails with the first rule that the configuration breaks. -/
def validate (c : Config) : Except Invalid Unit :=
  if Unicode.isBlankText c.messageType then .error .emptyMessageType
  else if Unicode.isBlankText c.version then .error .emptyVersion
  else if !isEncodable c.messageType then .error (.unencodableHeader c.messageType)
  else if !isEncodable c.version then .error (.unencodableHeader c.version)
  else if c.maxBytes < leastMaxBytes then .error .limitTooSmall
  else .ok ()

end Config

end Parcel
