import Parcel.Pattern.Overlay
import Parcel.Pattern.Reader

/-!
# Patterns

A pattern is a regular expression that a text has to match as a whole. It is framed by the
assertions of the start and the end of the text before it is read, and a part of the text is then
looked for that the framed expression describes.

## Main definitions

* `Parcel.Pattern`, `Pattern.compile`
* `Pattern.accepts` — whether a text matches
-/

namespace Parcel

/-- A pattern and its expression, if it is well formed. -/
structure Pattern where
  /-- The pattern as it was given. -/
  source : String
  /-- What it says. -/
  expression : Option Expression

namespace Pattern

/-- The pattern between the start and the end of the text. -/
def frame (source : String) : List Char :=
  "^(?:".toList ++ source.toList ++ ")$".toList

/-- A pattern with its expression. -/
def compile (source : String) : Pattern := ⟨source, read? (frame source)⟩

/-- Whether the pattern is well formed. -/
def isValid (p : Pattern) : Bool := p.expression.isSome

/-- Whether `text` matches; nothing matches a pattern that is not well formed. -/
def accepts (p : Pattern) (text : String) : Bool := p.expression.any (·.occursIn text.toList)

end Pattern

end Parcel
