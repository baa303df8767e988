import Parcel.Config
import Parcel.Container.Raw
import Parcel.Store

/-!
# Containers

A container is a header with named values under a storage policy. Its values are held in a store,
or they are still in the text that they arrived in and wait there to be decoded. The first
operation that needs them decodes them, once; changing the header does not. A container that was
decoded from text may keep the text beside its values until one of the values changes.

## Main definitions

* `Parcel.Content` — values in a store, or deferred
* `Parcel.Container`
* `Container.access` — the store, decoded if need be
* `Container.visit` — an operation on the store
-/

namespace Parcel

/-- Where the values of a container are. -/
inductive Content where
  /-- In `store`, with the text that they were read from if that is kept. -/
  | held (store : Store) (raw : Option RawText)
  /-- In the text `raw`, which has not been decoded. -/
  | deferred (raw : RawText)

/-- A header and named values under a policy, with the settings. -/
structure Container where
  /-- The header. -/
  header : Header
  /-- How values are found. -/
  policy : Policy
  /-- The values. -/
  content : Content
  /-- The settings. -/
  config : Config

namespace Container

/-- A container of the contents of a document. -/
def ofDocument (policy : Policy) (d : Document) : Container :=
  ⟨d.header, policy, .held (.ofList policy d.values) none, .initial⟩

/-- A container without values. -/
def new (policy : Policy) : Container := ofDocument policy .empty

instance : Inhabited Container := ⟨new .linear⟩

/-- The container under the settings `config`; message type and version become those of the
settings. -/
def withConfig (config : Config) (c : Container) : Container :=
  { c with
    header := { c.header with messageType := config.messageType, version := config.version }
    config }

/-- The text that is kept, whether or not it has been decoded. -/
def raw? (c : Container) : Option RawText :=
  match c.content with
  | .held _ raw => raw
  | .deferred raw => some raw

/-- Whether the values have been decoded. -/
def isMaterialized (c : Container) : Bool :=
  match c.content with
  | .held .. => true
  | .deferred _ => false

/-- Whether the entries of the kept text are at hand. -/
def isIndexed (c : Container) : Bool := c.raw?.any (·.isIndexed)

/-- The values that have been decoded. -/
def heldValues (c : Container) : List Named :=
  match c.content with
  | .held store _ => store.toList
  | .deferred _ => []

/-- The container with the values of `store`; the text that is kept shows the old ones and is
dropped. -/
def holding (store : Store) (c : Container) : Container := { c with content := .held store none }

/-- The store. Deferred values are decoded; if that fails, they stay deferred. -/
def access (c : Container) : Except Error Store × Container :=
  match c.content with
  | .held store _ => (.ok store, c)
  | .deferred raw =>
    let raw := raw.indexed
    match raw.values with
    | .ok values =>
      let store := Store.ofList c.policy values
      (.ok store, { c with content := .held store (some raw) })
    | .error e => (.error e, { c with content := .deferred raw })

/-- An operation `f` on the store, which may leave another store behind. -/
def visit {α : Type} (f : Store → Except Error α × Option Store) (c : Container) :
    Except Error α × Container :=
  match c.access with
  | (.error e, c) => (.error e, c)
  | (.ok store, c) =>
    match f store with
    | (answer, none) => (answer, c)
    | (answer, some store) => (answer, c.holding store)

/-- A question `f` to the store. -/
def query {α : Type} (f : Store → Except Error α) (c : Container) : Except Error α × Container :=
  c.visit fun store => (f store, none)

/-- A question `f` to the store that has the answer `absent` when the values cannot be decoded. -/
def queryOr {α : Type} (absent : α) (f : Store → α) (c : Container) : α × Container :=
  let (answer, c) := c.query fun store => .ok (f store)
  (answer.toOption.getD absent, c)

/-- The memory of header, values and kept text. -/
def footprint (c : Container) : Nat :=
  (Document.mk c.header c.heldValues).footprint + (c.raw?.map fun r => r.bytes.length).getD 0

end Container

end Parcel
