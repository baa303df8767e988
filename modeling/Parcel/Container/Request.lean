import Parcel.Container.Transfer
import Parcel.Metrics.Registry

/-!
# Requests

Everything that can be asked of a container, as data, so that a run of requests is a list.

## Main definitions

* `Parcel.Request`, `Parcel.Answer`
* `Request.perform` — one request to a container with a pool
* `Request.category` — what a request counts as
-/

namespace Parcel

/-- What can be asked of a container. -/
inductive Request where
  /-- Put the value `n`. -/
  | set (n : Named)
  /-- Put `values`, one after the other. -/
  | setAll (values : List Named)
  /-- Append `values`. -/
  | bulkInsert (values : List Named)
  /-- Remove the values of `key`. -/
  | remove (key : String)
  /-- Remove all values. -/
  | clear
  /-- Remove the values of `keys`, one after the other. -/
  | removeBatch (keys : List String)
  /-- Make the update `u`. -/
  | updateIf (u : Update)
  /-- Make the updates `us`, one after the other. -/
  | updateBatchIf (us : List Update)
  /-- The value of `key` as the `target` type. -/
  | get (key : String) (target : Target)
  /-- The value of `key`. -/
  | getValue (key : String)
  /-- Whether `key` has a value. -/
  | contains (key : String)
  /-- Number of values. -/
  | size
  /-- The names. -/
  | keys
  /-- The values. -/
  | values
  /-- Header and values. -/
  | snapshot
  /-- The values of `keys`. -/
  | getBatch (keys : List String)
  /-- The values of `keys`, by name. -/
  | getBatchMap (keys : List String)
  /-- Which of `keys` have a value. -/
  | containsBatch (keys : List String)
  /-- The header. -/
  | header
  /-- Put `header` in place of the one that there is. -/
  | setHeader (header : Header)
  /-- Other values for the given `fields` of the header. -/
  | setFields (fields : List (Field × String))
  /-- Exchange source and target. -/
  | swapHeader
  /-- Encode in the format `f`. -/
  | serialize (f : Format)
  /-- Encode as text in the format `f`. -/
  | serializeText (f : Format)
  /-- Take over the input `s`. -/
  | deserialize (s : Bytes)
  /-- Take over the input `s` in the format `f`. -/
  | deserializeAs (s : Bytes) (f : Format)
  /-- Take over the header of `s` and defer the values. -/
  | parseLazy (s : Bytes)
  /-- Copy the container, with its values or without. -/
  | copy (withValues : Bool)
  /-- Scan the kept text. -/
  | ensureIndex
  /-- An entry of the kept text, for `key`. -/
  | view (key : String)
  /-- All entries of the kept text. -/
  | views

/-- What a container answers. -/
inductive Answer where
  /-- Done. -/
  | done
  /-- It failed with `e`. -/
  | failed (e : Error)
  /-- A value as a type. -/
  | reading (r : Reading)
  /-- A value, if there is one. -/
  | found (n : Option Named)
  /-- Yes or no. -/
  | flag (b : Bool)
  /-- A number. -/
  | count (n : Nat)
  /-- Names. -/
  | names (keys : List String)
  /-- Values. -/
  | values (values : List Named)
  /-- A document. -/
  | document (d : Document)
  /-- Values for several names, where there are any. -/
  | foundEach (found : List (Option Named))
  /-- Values by name. -/
  | foundByName (found : Std.TreeMap String Value)
  /-- Yes or no, several times. -/
  | flags (bs : List Bool)
  /-- A header. -/
  | header (h : Header)
  /-- An encoding. -/
  | encoded (s : Bytes)
  /-- An encoding as text. -/
  | encodedText (s : String)
  /-- Another container. -/
  | container (c : Container)
  /-- An entry of the kept text, if there is one. -/
  | view (v : Option View)
  /-- Entries of the kept text. -/
  | views (vs : List View)

namespace Answer

/-- The answer to a request that can fail. -/
def ofExcept {α : Type} (f : α → Answer) : Except Error α → Answer
  | .ok a => f a
  | .error e => failed e

/-- The answer to a request that is either done or fails. -/
def ofUnit : Except Error Unit → Answer := ofExcept fun _ => done

end Answer

namespace Request

/-- An answer that leaves the `pool` alone. -/
def keeping {α : Type} (pool : Pool) (f : α → Answer) (r : α × Container) :
    Answer × Container × Pool :=
  (f r.1, r.2, pool)

/-- An answer that passes the pool on. -/
def passing {α : Type} (f : α → Answer) (r : α × Container × Pool) :
    Answer × Container × Pool :=
  (f r.1, r.2)

/-- A request to a container with the `pool` that it takes buffers from. -/
def perform [Memory] (r : Request) (c : Container) (pool : Pool) : Answer × Container × Pool :=
  match r with
  | .set n => keeping pool .ofUnit (c.set n)
  | .setAll ns => keeping pool .ofUnit (c.setAll ns)
  | .bulkInsert ns => keeping pool .ofUnit (c.bulkInsert ns)
  | .remove key => keeping pool .ofUnit (c.remove key)
  | .clear => (.done, c.clear, pool)
  | .removeBatch names => keeping pool .count (c.removeBatch names)
  | .updateIf u => keeping pool .flag (c.updateIf u)
  | .updateBatchIf us => keeping pool .flags (c.updateBatchIf us)
  | .get key target => keeping pool (.ofExcept .reading) (c.get key target)
  | .getValue key => keeping pool .found (c.getValue key)
  | .contains key => keeping pool .flag (c.contains key)
  | .size => keeping pool .count c.size
  | .keys => keeping pool .names c.keys
  | .values => keeping pool .values c.values
  | .snapshot => keeping pool (.ofExcept .document) c.snapshot
  | .getBatch names => keeping pool .foundEach (c.getBatch names)
  | .getBatchMap names => keeping pool .foundByName (c.getBatchMap names)
  | .containsBatch names => keeping pool .flags (c.containsBatch names)
  | .header => (.header c.header, c, pool)
  | .setHeader h => (.done, { c with header := h }, pool)
  | .setFields fields => (.done, { c with header := c.header.setAll fields }, pool)
  | .swapHeader => (.done, { c with header := c.header.swap }, pool)
  | .serialize f => passing (.ofExcept .encoded) (c.serialize f pool)
  | .serializeText f => passing (.ofExcept .encodedText) (c.serializeText f pool)
  | .deserialize s => keeping pool .ofUnit (c.deserialize s)
  | .deserializeAs s f => keeping pool .ofUnit (c.deserializeAs s f)
  | .parseLazy s => keeping pool .ofUnit (c.parseLazy s)
  | .copy withValues => passing (.ofExcept .container) (c.copy withValues pool)
  | .ensureIndex => keeping pool (.ofExcept .flag) c.ensureIndex
  | .view key => keeping pool .view (c.view? key)
  | .views => keeping pool .views c.views

/-- What a request counts as; a request that is refused for its arguments counts as nothing. -/
def category : Request → Option Operation
  | .set n => if n.name = "" then none else some .write
  | .setAll ns => if Container.allNamed ns then some .write else none
  | .bulkInsert ns => if Container.allNamed ns && !ns.isEmpty then some .write else none
  | .remove _ | .clear | .removeBatch _ | .updateIf _ | .updateBatchIf _ => some .write
  | .get .. | .getValue _ | .getBatch _ | .getBatchMap _ => some .read
  | .serialize _ => some .serialize
  | .serializeText f => if f.isTextual then some .serialize else none
  | .deserialize s => (Format.detect? s).map fun _ => .deserialize
  | .deserializeAs .. | .parseLazy _ => some .deserialize
  | .copy _ => some .copy
  | _ => none

end Request

end Parcel
