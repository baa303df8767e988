import Parcel.Container.Request
import Parcel.Directory

/-!
# Depots

A depot keeps containers under names. Each takes its buffers from a pool; a copy takes them from
the pool of its source. Operations on containers are counted while counting is switched on, and
containers can be saved to a directory and loaded from it.

## Main definitions

* `Parcel.Depot`
* `Depot.request` — a request to one container
* `Depot.copy`, `Depot.send` — from one container to another
* `Depot.save`, `Depot.load`
-/

namespace Parcel

/-- A container and the number of the pool it takes buffers from. -/
structure Slot where
  /-- The container. -/
  container : Container
  /-- The number of its pool. -/
  pool : Nat
  deriving Inhabited

/-- Containers by name, their pools, a registry and a directory. -/
structure Depot where
  /-- How new containers find values. -/
  policy : Policy
  /-- The containers by name. -/
  slots : List (String × Slot)
  /-- The pools, by number. -/
  pools : Array Pool
  /-- Whether operations are counted. -/
  counting : Bool
  /-- What has been counted. -/
  metrics : Metrics
  /-- The files. -/
  directory : Directory

namespace Depot

/-- A depot without containers. -/
def empty (policy : Policy) (location : String) : Depot :=
  ⟨policy, [], #[], false, .empty, .empty location⟩

/-- Puts a container with a pool of its own under `name`. -/
def place (name : String) (c : Container) (pool : Pool) (d : Depot) : Depot :=
  { d with
    slots := (name, ⟨c, d.pools.size⟩) :: d.slots.filter (·.1 != name)
    pools := d.pools.push pool }

/-- Puts a new container under a name. -/
def placeNew (name : String) (d : Depot) : Depot :=
  d.place name (.new d.policy) (.direct 0)

/-- What stands under `name`. -/
def slot (name : String) (d : Depot) : Slot := (d.slots.lookup name).getD default

/-- The container under a name. -/
def container (name : String) (d : Depot) : Container := (d.slot name).container

/-- The pool of the container under a name. -/
def pool (name : String) (d : Depot) : Pool := (d.pools[(d.slot name).pool]?).getD default

/-- Puts a container and its pool back under `name`. -/
def update (name : String) (c : Container) (pool : Pool) (d : Depot) : Depot :=
  let number := (d.slot name).pool
  { d with
    slots := (name, ⟨c, number⟩) :: d.slots.filter (·.1 != name)
    pools := d.pools.setIfInBounds number pool }

/-- The pool of a container without buffers, and with its counters at zero. -/
def resetPool (name : String) (d : Depot) : Depot :=
  d.update name (d.container name) (d.pool name).reset

/-- Counts an operation, if counting is switched on. -/
def count (op : Option Operation) (d : Depot) : Depot :=
  match op with
  | some op => if d.counting then { d with metrics := d.metrics.record op 0 } else d
  | none => d

/-- A request to the container under `name`. -/
def request [Memory] (name : String) (r : Request) (d : Depot) : Answer × Depot :=
  let (answer, c, pool) := r.perform (d.container name) (d.pool name)
  (answer, (d.update name c pool).count r.category)

/-- Copies the container `source` to the name `target`; the copy shares the pool. -/
def copy [Memory] (source target : String) (withValues : Bool) (d : Depot) : Answer × Depot :=
  let (answer, d) := d.request source (.copy withValues)
  match answer with
  | .container c =>
    (answer, { d with
      slots := (target, ⟨c, (d.slot source).pool⟩) :: d.slots.filter (·.1 != target) })
  | _ => (answer, d)

/-- Encodes the container `source` and has `target` take the encoding over, with its values deferred
if `lazily`. -/
def send [Memory] (source target : String) (f : Format) (lazily : Bool) (d : Depot) :
    Answer × Depot :=
  match d.request source (.serialize f) with
  | (.encoded s, d) => d.request target (if lazily then .parseLazy s else .deserialize s)
  | r => r

/-- Saves the encoding of the container `name` in `file`. -/
def save [Memory] (name file : String) (f : Format) (d : Depot) : Answer × Depot :=
  match d.request name (.serialize f) with
  | (.encoded s, d) =>
    let (saved, directory) := d.directory.save file s
    (.ofUnit saved, { d with directory })
  | r => r

/-- Has the container `name` take over what `file` holds. -/
def load [Memory] (name file : String) (d : Depot) : Answer × Depot :=
  match d.directory.read file with
  | .ok s => d.request name (.deserialize s)
  | .error e => (.failed e, d)

/-- A new container of what a file holds. -/
def loadNew (file : String) (d : Depot) : Answer × Depot :=
  match d.directory.read file with
  | .error e => (.failed e, d)
  | .ok s =>
    let r := Request.deserialize s
    let d := d.count r.category
    match (Container.new .linear).deserialize s with
    | (.ok (), c) => (.container c, d)
    | (.error e, _) => (.failed e, d)

end Depot

end Parcel
