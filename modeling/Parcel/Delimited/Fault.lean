import Parcel.Error
import Parcel.Hex
import Parcel.Number.Decimal
import Parcel.Unicode.Utf8
import Parcel.Value

/-!
# Faults of the text format

Why an input is not a document in the text format.
-/

namespace Parcel.Delimited

/-- The two kinds of blocks. -/
inductive Block where
  /-- The block of header fields. -/
  | header
  /-- The block of values. -/
  | data
  deriving DecidableEq, Inhabited

/-- The name of a block. -/
def Block.name : Block → String
  | .header => "header"
  | .data => "data"

/-- What was looked for and not found. -/
inductive Expectation where
  /-- One of the two marks that open a block. -/
  | mark
  /-- The character `c`. -/
  | char (c : Char)
  /-- The character `c`, somewhere ahead. -/
  | ahead (c : Char)
  /-- The end of a pair, somewhere ahead. -/
  | terminator
  /-- A pair or the end of `block`. -/
  | pairOrEnd (block : Block)
  /-- A known type tag in place of `found`. -/
  | tag (found : String)
  /-- A name with at least one character. -/
  | name
  /-- The end of the input. -/
  | finish
  deriving DecidableEq

/-- The wording of an expectation that was not met. -/
def Expectation.message : Expectation → String
  | .mark => "expected '@header' or '@data'"
  | .char c => "expected '" ++ String.singleton c ++ "'"
  | .ahead c => "missing '" ++ String.singleton c ++ "'"
  | .terminator => "unterminated pair"
  | .pairOrEnd block => "expected '[' or '\x7d' in " ++ block.name ++ " block"
  | .tag found => "unknown type tag '" ++ found ++ "'"
  | .name => "empty value name"
  | .finish => "unexpected trailing content"

/-- Why an input is not a document in the text format. -/
inductive Fault where
  /-- What is `expected` at `offset` is not there. -/
  | malformed (offset : Nat) (expected : Expectation)
  /-- The `part` of a document has to be text and is not. -/
  | notText (part : String) (fault : Utf8.Fault)
  /-- A literal of the given `kind` denotes nothing. -/
  | literal (kind : Kind) (text : String)
  /-- The nested payload of the given `kind` is not hexadecimal. -/
  | payload (kind : Kind) (fault : Hex.Fault)
  /-- Values are nested too deeply. -/
  | tooDeep
  deriving DecidableEq

/-- The wording of a fault. -/
def Fault.message : Fault → String
  | .malformed offset expected =>
    "malformed document at byte " ++ Decimal.text offset ++ ": " ++ expected.message
  | .notText part fault => part ++ " is not valid UTF-8: " ++ fault.message
  | .literal kind text => "invalid " ++ kind.name ++ " literal '" ++ text ++ "'"
  | .payload kind fault => "invalid hex payload for " ++ kind.name ++ ": " ++ fault.message
  | .tooDeep => "containers nested deeper than " ++ Decimal.text Document.depthLimit

/-- A fault as an error. -/
def Fault.error (f : Fault) : Error := .deserializationFailed f.message

end Parcel.Delimited
