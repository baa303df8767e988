import Parcel.Bytes
import Parcel.Kind

/-!
# Errors

What can go wrong with a container: looking up and reading values, writing and reading a wire
format, and the memory and files around it. Every error has a stable number and a message.

Some messages end with what a library or the system says about the case. Its words are left open:
an error keeps what they are about, and whoever shows the message supplies a `Wording`.

## Main definitions

* `Parcel.Cause`, `Parcel.Wording` — what others refuse, and how they say it
* `Parcel.Reason` — why something failed
* `Parcel.Error` — what went wrong
* `Error.code`, `Error.category`, `Error.message` — how a cause is reported
* `Error.isInputError` — whether trying again with the same input is pointless
-/

namespace Parcel

/-- The three groups of errors. -/
inductive Category where
  /-- Looking up and reading values. -/
  | valueOperation
  /-- Writing and reading wire formats. -/
  | serialization
  /-- Memory and files. -/
  | resource
  deriving DecidableEq

/-- The name of a group. -/
def Category.name : Category → String
  | .valueOperation => "value_operation"
  | .serialization => "serialization"
  | .resource => "resource"

/-- What was refused by a library or by the system. -/
inductive Cause where
  /-- Reading `input` as JSON. -/
  | json (input : Bytes)
  /-- Reading `input` as MessagePack. -/
  | messagePack (input : Bytes)
  /-- Compiling the pattern `source`, in its frame. -/
  | pattern (source : String)
  /-- Reading `input` as TOML. -/
  | toml (input : Bytes)
  /-- Writing `n` as an integer of TOML. -/
  | tomlInteger (n : Nat)
  /-- Reserving `amount` bytes. -/
  | memory (amount : Nat)
  /-- Reading the file at `path`. -/
  | reading (path : String)
  /-- Writing the file at `path`. -/
  | writing (path : String)
  deriving DecidableEq, Inhabited

/-- What a refusal is put into words as. -/
abbrev Wording := Cause → String

/-- Why something failed. -/
inductive Reason where
  /-- In `words` of its own. -/
  | own (words : String)
  /-- In those of another, with `lead` before them. -/
  | quoted (lead : String) (cause : Cause)
  deriving DecidableEq, Inhabited

instance : Coe String Reason := ⟨.own⟩

/-- The text of a reason. -/
def Reason.text (w : Wording) : Reason → String
  | .own words => words
  | .quoted lead cause => lead ++ w cause

/-- What went wrong. -/
inductive Error where
  /-- No value has the key `key`. -/
  | keyNotFound (key : String)
  /-- A key has no characters. -/
  | emptyKey
  /-- The value under `key`, of the kind `actual`, cannot be read as the `expected` type. -/
  | typeMismatch (key expected : String) (actual : Kind)
  /-- The input is in no known format, or the format cannot be used here. -/
  | invalidFormat (reason : String)
  /-- Writing a format failed. -/
  | serializationFailed (reason : String)
  /-- Reading a format failed. -/
  | deserializationFailed (reason : Reason)
  /-- A payload cannot be written in the format. -/
  | encodingError (reason : String)
  /-- Memory could not be reserved. -/
  | memoryAllocationFailed (reason : Reason)
  /-- No file is at `path`. -/
  | fileNotFound (path : String)
  /-- The file could not be read. -/
  | fileReadError (reason : Reason)
  /-- The file could not be written. -/
  | fileWriteError (reason : Reason)
  deriving DecidableEq, Inhabited

namespace Error

/-- The number of an error. -/
def code : Error → Nat
  | keyNotFound _ => 100
  | typeMismatch .. => 101
  | emptyKey => 105
  | serializationFailed _ => 200
  | deserializationFailed _ => 201
  | invalidFormat _ => 202
  | encodingError _ => 207
  | memoryAllocationFailed _ => 400
  | fileNotFound _ => 401
  | fileReadError _ => 402
  | fileWriteError _ => 403

/-- The group of an error. -/
def category : Error → Category
  | keyNotFound _ | typeMismatch .. | emptyKey => .valueOperation
  | serializationFailed _ | deserializationFailed _ | invalidFormat _ | encodingError _ =>
    .serialization
  | memoryAllocationFailed _ | fileNotFound _ | fileReadError _ | fileWriteError _ => .resource

/-- The message of an error, where others have their refusals worded by `w`. -/
def message (w : Wording) : Error → String
  | keyNotFound key => "Key not found: " ++ key
  | emptyKey => "Key must not be empty"
  | typeMismatch key expected actual =>
    "Type mismatch for '" ++ key ++ "': expected " ++ expected ++ ", found " ++ actual.name
  | invalidFormat reason => "Invalid format: " ++ reason
  | serializationFailed reason => "Serialization failed: " ++ reason
  | deserializationFailed reason => "Deserialization failed: " ++ reason.text w
  | encodingError reason => "Encoding error: " ++ reason
  | memoryAllocationFailed reason => "Memory allocation failed: " ++ reason.text w
  | fileNotFound path => "File not found: " ++ path
  | fileReadError reason => "File read error: " ++ reason.text w
  | fileWriteError reason => "File write error: " ++ reason.text w

/-- Whether trying again with the same input is pointless. -/
def isInputError : Error → Bool
  | invalidFormat _ | deserializationFailed _ | encodingError _ | emptyKey => true
  | _ => false

end Error

end Parcel
