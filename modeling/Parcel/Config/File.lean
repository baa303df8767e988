import Parcel.Config
import Parcel.Directory
import Parcel.Toml.Reader

/-!
# Configuration files

A configuration is kept in a TOML file, one line for every setting. Settings that a file leaves out
have their initial values, and keys that are no settings are ignored. What has been read is
validated.

## Main definitions

* `Config.toToml?`, `Config.ofToml?` — settings as TOML and back
* `Config.save`, `Config.load` — settings in a file
* `Config.Fault` — why that failed
* `Config.template` — a file with the initial settings
-/

namespace Parcel.Config

/-- The usual name of a configuration file. -/
def fileName : String := "vessel.toml"

/-- A file with the initial settings and what they mean. -/
def template : String := "# Vessel container configuration
#
# Header given to new containers. \"data_container\" marks an untyped
# container; its routing ids are left out of every encoding.
default_message_type = \"data_container\"
default_version = \"1.0\"

# Format used by save/copy when none is named: \"text\", \"json\", \"xml\", \"msgpack\"
default_format = \"text\"

# Keep the raw text buffer after deserializing so zero-copy views work
retain_raw_buffer = true

# Largest accepted input, in bytes (default: 64MB)
max_document_bytes = 67108864
"

/-- Why a configuration could not be read or written. -/
inductive Fault where
  /-- There is no such file, it is not UTF-8, or it cannot be written. -/
  | io (reason : Reason)
  /-- It is not TOML, or a setting is of the wrong kind or out of range. -/
  | parse (reason : Reason)
  /-- It breaks `rule`. -/
  | invalid (rule : Invalid)
  deriving DecidableEq, Inhabited

namespace Fault

/-- The message of a fault, where others have their refusals worded by `w`. -/
def message (w : Wording) : Fault → String
  | io reason => "config I/O error: " ++ reason.text w
  | parse reason => "config parse error: " ++ reason.text w
  | invalid rule => rule.message

/-- The file at `path` could not be read. -/
def unread (path : String) : Fault :=
  io (.quoted ("failed to read '" ++ path ++ "': ") (.reading path))

/-- The file at `path` could not be written. -/
def unwritten (path : String) : Fault :=
  io (.quoted ("failed to write '" ++ path ++ "': ") (.writing path))

/-- The file at `path` has `content` in it, which says nothing about settings. -/
def unparsed (path : String) (content : Bytes) : Fault :=
  parse (.quoted ("failed to parse '" ++ path ++ "': ") (.toml content))

end Fault

/-! ## Writing -/

/-- The setting `key` on a line of its own. -/
def line (key : String) (value : List Char) : List Char :=
  key.toList ++ [' ', '=', ' '] ++ value ++ ['\n']

/-- The settings as TOML; a limit that is no integer of TOML cannot be written. -/
def toToml? (c : Config) : Option (List Char) :=
  if (c.maxBytes : Int) ≤ Toml.greatestInteger then
    some (line "default_message_type" (Toml.quote c.messageType.toList) ++
      line "default_version" (Toml.quote c.version.toList) ++
      line "default_format" (Toml.quote c.format.name.toList) ++
      line "retain_raw_buffer" (if c.retainsRaw then "true" else "false").toList ++
      line "max_document_bytes" (Decimal.ofNat c.maxBytes))
  else none

/-! ## Reading -/

/-- A text. -/
def ofText? : Toml.Item → Option String
  | .text s => some s
  | _ => none

/-- A truth value. -/
def ofBoolean? : Toml.Item → Option Bool
  | .boolean b => some b
  | _ => none

/-- A number of bytes. -/
def ofSize? : Toml.Item → Option Nat
  | .integer (.ofNat n) => some n
  | _ => none

/-- Whether an item has nothing in it. -/
def isVoid : Toml.Item → Bool
  | .array items => items.isEmpty
  | .table _ entries => entries.isEmpty
  | _ => false

/-- A format: its name, or a table with its name as the only key and nothing under it. -/
def ofFormat? : Toml.Item → Option Format
  | .text name => Format.ofName? name
  | .table _ [(name, item)] => if isVoid item then Format.ofName? name else none
  | _ => none

/-- The setting `key` of a table, or the value `initially` where the table does not have it. -/
def setting? {α : Type} (t : Toml.Table) (key : String) (initially : α)
    (read : Toml.Item → Option α) : Option α :=
  match t.lookup key with
  | none => some initially
  | some item => read item

/-- The settings of a table. -/
def ofTable? (t : Toml.Table) : Option Config := do
  return {
    messageType := ← setting? t "default_message_type" initial.messageType ofText?
    version := ← setting? t "default_version" initial.version ofText?
    format := ← setting? t "default_format" initial.format ofFormat?
    retainsRaw := ← setting? t "retain_raw_buffer" initial.retainsRaw ofBoolean?
    maxBytes := ← setting? t "max_document_bytes" initial.maxBytes ofSize? }

/-- The settings that a text in TOML holds. -/
def ofToml? (s : List Char) : Option Config := Toml.read? s >>= ofTable?

/-- The settings that the file at `path` holds in `content`. -/
def read (path : String) (content : Bytes) : Except Fault Config :=
  match Utf8.decode content with
  | .error _ => .error (.unread path)
  | .ok text =>
    match ofToml? text.toList with
    | none => .error (.unparsed path content)
    | some c => (c.validate.mapError .invalid).map fun _ => c

/-! ## Files -/

/-- Writes the settings to `file`. -/
def save (c : Config) (file : String) (d : Directory) : Except Fault Directory :=
  match c.toToml? with
  | none => .error (.parse (.quoted "" (.tomlInteger c.maxBytes)))
  | some text =>
    match d.write? (Path.parse file) (Utf8.encodeChars text) with
    | none => .error (.unwritten (d.describe file))
    | some d => .ok d

/-- Reads settings from `file`. -/
def load (file : String) (d : Directory) : Except Fault Config :=
  match d.read file with
  | .error _ => .error (.unread (d.describe file))
  | .ok content => read (d.describe file) content

end Parcel.Config
