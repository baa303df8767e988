import Parcel.Bytes
import Parcel.Error

/-!
# Directories

A directory holds files and further directories by relative path. A file is saved under a temporary
name first and then takes its place, so that a failure leaves the old content as it was.

## Main definitions

* `Parcel.Directory`
* `Directory.read`, `Directory.save`
-/

namespace Parcel

/-- What stands under a path. -/
inductive FileEntry where
  /-- A file with `content` in it. -/
  | file (content : Bytes)
  /-- A directory. -/
  | folder
  deriving DecidableEq, Inhabited

/-- A relative path, as its steps. -/
abbrev Path := List String

/-- The path of a text, with a slash between the steps. -/
def Path.parse (s : String) : Path :=
  ((s.toList.splitOn '/').map String.ofList).filter fun step => step != "" && step != "."

/-- A directory and all that is below it. -/
structure Directory where
  /-- The name of the directory in messages. -/
  location : String
  /-- What stands under which path. -/
  entries : List (Path × FileEntry)

namespace Directory

/-- A directory without content. -/
def empty (location : String) : Directory := ⟨location, []⟩

instance : Inhabited Directory := ⟨empty ""⟩

/-- What a path leads to. -/
inductive Target where
  /-- A file with `content` in it. -/
  | file (content : Bytes)
  /-- A directory. -/
  | folder
  /-- Nothing. -/
  | absent
  /-- Nothing, because a step on the way is a file. -/
  | blocked
  deriving DecidableEq

/-- What a path leads to, from the steps `done` on. -/
def walk (entries : List (Path × FileEntry)) (done : Path) : Path → Target
  | [] => .folder
  | step :: rest =>
    let here := done ++ [step]
    match entries.lookup here with
    | none => .absent
    | some .folder => walk entries here rest
    | some (.file content) => if rest.isEmpty then .file content else .blocked

/-- What the path `p` leads to. -/
def target (d : Directory) (p : Path) : Target := walk d.entries [] p

/-- The directory without what stands under the path `p`. -/
def erase (p : Path) (d : Directory) : Directory :=
  { d with entries := d.entries.filter (·.1 != p) }

/-- The directory with `e` under the path `p`, in place of what was there. -/
def put (p : Path) (e : FileEntry) (d : Directory) : Directory :=
  { d with entries := (p, e) :: (d.erase p).entries }

/-- Whether a file can be made or overwritten under the path `p`. -/
def isWritable (p : Path) (d : Directory) : Bool :=
  d.target p.dropLast == .folder && d.target p != .folder

/-- The directory with a file under `p`, unless it cannot be written. -/
def write? (p : Path) (content : Bytes) (d : Directory) : Option Directory :=
  if d.isWritable p then some (d.put p (.file content)) else none

/-- The directory with a further directory, unless its path is taken or leads nowhere. -/
def create? (p : Path) (d : Directory) : Option Directory :=
  if d.target p.dropLast == .folder && d.target p == .absent then some (d.put p .folder) else none

/-- The names in the directory itself, sorted. -/
def names (d : Directory) : List String :=
  (d.entries.filterMap fun (p, _) => match p with
    | [name] => some name
    | _ => none).mergeSort fun a b => decide (a ≤ b)

/-- A path as messages show it. -/
def describe (file : String) (d : Directory) : String := d.location ++ "/" ++ file

/-- A reason that starts with the path of `file`. -/
def reason (cause : String → Cause) (file : String) (d : Directory) : Reason :=
  .quoted (d.describe file ++ ": ") (cause (d.describe file))

/-- The content of `file`. -/
def read (file : String) (d : Directory) : Except Error Bytes :=
  match d.target (Path.parse file) with
  | .file content => .ok content
  | .absent => .error (.fileNotFound (d.describe file))
  | .folder | .blocked => .error (.fileReadError (d.reason .reading file))

/-- The name that a file has until it is complete. -/
def temporary (p : Path) : Path := p.dropLast ++ [p.getLastD "" ++ ".tmp"]

/-- Saves `file` in place of an older one. When that is not possible the temporary file is removed
again, if it could be made. -/
def save (file : String) (content : Bytes) (d : Directory) : Except Error Unit × Directory :=
  let p := Path.parse file
  let failed : Except Error Unit := .error (.fileWriteError (d.reason .writing file))
  match d.write? (temporary p) content with
  | none => (failed, d)
  | some filled =>
    let cleared := filled.erase (temporary p)
    match cleared.write? p content with
    | none => (failed, cleared)
    | some saved => (.ok (), saved)

end Directory

end Parcel
