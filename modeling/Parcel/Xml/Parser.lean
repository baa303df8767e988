import Parcel.Unicode.Blank
import Parcel.Xml.Text

/-!
# Parsing XML

Reads one element with everything inside it. Comments, processing instructions and a document type
are skipped, sections of character data are taken as they are, and a start tag ends at the first
closing angle bracket whatever stands before it.

## Main definitions

* `Xml.parse` — the outermost element of a text
-/

namespace Parcel.Xml

/-- A place in the text: how many bytes precede it, and the characters that follow. -/
structure Cursor where
  /-- Number of bytes before this place. -/
  offset : Nat
  /-- The characters from this place on. -/
  rest : List Char
  deriving Inhabited

/-- The number of bytes of some characters. -/
def byteLength (cs : List Char) : Nat := cs.foldl (fun n c => n + c.utf8Size) 0

namespace Cursor

/-- A fault at this place. -/
def fault (c : Cursor) (expected : Expectation) : Fault := .malformed c.offset expected

/-- The place after `taken`, which leaves `rest`. -/
def after (c : Cursor) (taken rest : List Char) : Cursor := ⟨c.offset + byteLength taken, rest⟩

/-- The place after the given characters, when they stand here. -/
def eat? (mark : List Char) (c : Cursor) : Option Cursor :=
  (mark.isPrefixOf? c.rest).map (c.after mark)

/-- The place after the white space here. -/
def skipBlanks (c : Cursor) : Cursor :=
  c.after (c.rest.takeWhile Unicode.isBlank) (c.rest.dropWhile Unicode.isBlank)

end Cursor

/-- The characters before the first occurrence of a mark, and those after it; `done` holds what
was passed in reverse. -/
def splitAtFrom (mark done : List Char) : List Char → Option (List Char × List Char)
  | [] => if mark.isEmpty then some (done.reverse, []) else none
  | c :: rest => match mark.isPrefixOf? (c :: rest) with
    | some after => some (done.reverse, after)
    | none => splitAtFrom mark (c :: done) rest

/-- The characters before the next occurrence of `mark`, and the place after it. -/
def Cursor.upTo? (mark : List Char) (c : Cursor) : Option (List Char × Cursor) :=
  (splitAtFrom mark [] c.rest).map fun (before, rest) => (before, c.after (before ++ mark) rest)

/-- The place after the next occurrence of a mark. -/
def Cursor.past (mark : List Char) (c : Cursor) : Except Fault Cursor :=
  match c.upTo? mark with
  | some (_, d) => .ok d
  | none => .error (c.fault (.ahead (String.ofList mark)))

/-- The mark that opens a comment. -/
def commentStart : List Char := ['<', '!', '-', '-']

/-- The mark that closes a comment. -/
def commentEnd : List Char := ['-', '-', '>']

/-- The mark that opens a processing instruction. -/
def instructionStart : List Char := ['<', '?']

/-- The mark that closes a processing instruction. -/
def instructionEnd : List Char := ['?', '>']

/-- The mark that opens a section of character data. -/
def sectionStart : List Char := ['<', '!', '[', 'C', 'D', 'A', 'T', 'A', '[']

/-- The mark that closes a section of character data. -/
def sectionEnd : List Char := [']', ']', '>']

/-- The mark that opens a document type. -/
def doctypeStart : List Char := ['<', '!', 'D', 'O', 'C', 'T', 'Y', 'P', 'E']

/-- Skips white space, comments and processing instructions. -/
def skipMiscWithin : Nat → Cursor → Except Fault Cursor
  | 0, c => .ok c
  | fuel + 1, c =>
    let c := c.skipBlanks
    if commentStart.isPrefixOf c.rest then c.past commentEnd >>= skipMiscWithin fuel
    else if instructionStart.isPrefixOf c.rest then c.past instructionEnd >>= skipMiscWithin fuel
    else .ok c

/-- Skips white space, comments and processing instructions; each takes at least one character. -/
def skipMisc (c : Cursor) : Except Fault Cursor := skipMiscWithin (c.rest.length + 1) c

/-- Skips what may stand before the outermost element. -/
def skipProlog (c : Cursor) : Except Fault Cursor := do
  let c ← skipMisc c
  if doctypeStart.isPrefixOf c.rest then c.past ['>'] >>= skipMisc else .ok c

/-- Whether a character ends a name in a tag. -/
def endsName (c : Char) : Bool := Unicode.isBlank c || c == '>' || c == '/' || c == '='

/-- Reads a name. -/
def name (c : Cursor) : Except Fault (String × Cursor) :=
  let cs := c.rest.takeWhile (!endsName ·)
  if cs.isEmpty then .error (c.fault .tagName)
  else .ok (String.ofList cs, c.after cs (c.rest.dropWhile (!endsName ·)))

/-- Reads a start tag: its name, and whether it closes its element at once. -/
def startTag (c : Cursor) : Except Fault (String × Bool × Cursor) := do
  match c.eat? ['<'] with
  | none => .error (c.fault .element)
  | some c =>
    let (name, c) ← name c
    match c.upTo? ['>'] with
    | none => .error (c.fault .startTagEnd)
    | some (before, d) => return (name, before.getLast? == some '/', d)

/-- Reads an end tag after its first two characters. -/
def endTag (expected : String) (c : Cursor) : Except Fault Cursor := do
  let (found, c) ← name c
  if found ≠ expected then .error (c.fault (.otherEndTag expected found))
  else
    let c := c.skipBlanks
    match c.eat? ['>'] with
    | none => .error (c.fault .endTagEnd)
    | some d => return d

/-- An element that has ended. White space around `children` is not text. -/
def closed (name : String) (text : List Char) (children : List Element) : Element :=
  let text := if !children.isEmpty && text.all Unicode.isBlank then [] else text
  ⟨name, String.ofList text, children.reverse⟩

mutual

/-- Reads an element that stands inside `depth` others. -/
def elementWithin : Nat → Nat → Cursor → Except Fault (Element × Cursor)
  | 0, _, c => .error (c.fault .element)
  | fuel + 1, depth, c =>
    if elementDepthLimit < depth then .error (c.fault .shallower)
    else do
      let (name, isEmpty, c) ← startTag c
      if isEmpty then return (⟨name, "", []⟩, c) else contentWithin fuel depth name [] [] c

/-- Reads the inside of an element and its end tag; `text` holds the text so far, and `children`
the children so far in reverse. -/
def contentWithin : Nat → Nat → String → List Char → List Element → Cursor →
    Except Fault (Element × Cursor)
  | 0, _, name, _, _, c => .error (c.fault (.endTag name))
  | fuel + 1, depth, name, text, children, c =>
    match c.rest with
    | [] => .error (c.fault (.endTag name))
    | '<' :: '/' :: rest => do
      let d ← endTag name (c.after ['<', '/'] rest)
      return (closed name text children, d)
    | '<' :: rest =>
      -- a comment is dropped, and a section is text as it stands
      if commentStart.isPrefixOf ('<' :: rest) then do
        let d ← c.past commentEnd
        contentWithin fuel depth name text children d
      else match c.eat? sectionStart with
        | some d => match d.upTo? sectionEnd with
          | none => .error (d.fault .sectionEnd)
          | some (data, d) => contentWithin fuel depth name (text ++ data) children d
        | none => do
          let (child, d) ← elementWithin fuel (depth + 1) c
          contentWithin fuel depth name text (child :: children) d
    | rest => do
      let written := rest.takeWhile (· != '<')
      let more ← (unescape written).mapError c.fault
      contentWithin fuel depth name (text ++ more) children
        (c.after written (rest.dropWhile (· != '<')))

end

/-- Reads an element; every step takes at least one character. -/
def element (c : Cursor) : Except Fault (Element × Cursor) :=
  elementWithin (2 * c.rest.length + 2) 0 c

/-- The outermost element of a text that holds nothing else of note. -/
def parseText (cs : List Char) : Except Fault Element := do
  let c ← skipProlog ⟨0, cs⟩
  let (root, c) ← element c
  let c ← skipMisc c
  if c.rest.isEmpty then return root else .error (c.fault .finish)

/-- The outermost element of an input. -/
def parse (s : Bytes) : Except Fault Element :=
  (Utf8.decodeChars s).mapError Fault.notText >>= parseText

end Parcel.Xml
