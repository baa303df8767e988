import Parcel.Container.Request
import Parcel.Directory
import Parcel.Schema.Admission

/-!
# Sessions

A session is a container with what it works on: the pool that it takes buffers from and the
directory that its files are in. The acts of a session are everything that can be done with the
container from outside. The pool and the directory belong to others as well, so between two acts of
the container they may become any other pool or directory.

Whether the values have been decoded, whether the entries of the kept text are at hand, how much
memory is in use and the diagnostic text are not acts: they tell how a container holds its values.

## Main definitions

* `Parcel.Session`, `Session.Act`, `Session.Reply`
* `Session.step` — one act
* `Session.replies` — what a run of acts is replied to
* `Container.Reachable` — the containers that acts and copies lead to
-/

namespace Parcel

/-- A container, its pool and its directory. -/
structure Session where
  /-- The container. -/
  container : Container
  /-- The pool that it takes buffers from. -/
  pool : Pool
  /-- The directory of its files. -/
  directory : Directory

namespace Session

/-- What can be done with a container. -/
inductive Act where
  /-- A request. -/
  | ask (r : Request)
  /-- Apply the settings `config`. -/
  | configure (config : Config)
  /-- The settings. -/
  | settings
  /-- Take buffers from another `pool`, or from the same one after others have used it. -/
  | usePool (pool : Pool)
  /-- Forget the buffers and the counters of the pool. -/
  | resetPool
  /-- The counters of the pool. -/
  | poolStats
  /-- Whether a text is kept. -/
  | keepsText
  /-- All violations of the schema `s`. -/
  | validateAll (s : Schema)
  /-- The first violation of the schema `s`. -/
  | validate (s : Schema)
  /-- Take over `input` and validate it. -/
  | takeValidated (s : Schema) (input : Bytes)
  /-- Save the encoding in `file`. -/
  | save (file : String) (f : Format)
  /-- Take over what `file` holds. -/
  | load (file : String)
  /-- Go on with another `directory`, or with the same one after others have used it. -/
  | useDirectory (directory : Directory)

/-- What an act is replied to. -/
inductive Reply where
  /-- The answer to a request. -/
  | answer (a : Answer)
  /-- Settings. -/
  | settings (config : Config)
  /-- Counters. -/
  | stats (stats : Pool.Stats)
  /-- Yes or no. -/
  | flag (b : Bool)
  /-- Violations. -/
  | violations (vs : List Violation)
  /-- A violation, if there is one. -/
  | violation (v : Option Violation)
  /-- Whether an input was admitted. -/
  | admission (r : Except Rejection Unit)
  /-- Nothing. -/
  | nothing

/-- A request to the container. -/
def ask [Memory] (r : Request) (s : Session) : Answer × Session :=
  let (answer, c, pool) := r.perform s.container s.pool
  (answer, { s with container := c, pool })

/-- Saves the encoding of the container in `file`. -/
def save [Memory] (file : String) (f : Format) (s : Session) : Answer × Session :=
  match s.ask (.serialize f) with
  | (.encoded content, s) =>
    let (saved, directory) := s.directory.save file content
    (.ofUnit saved, { s with directory })
  | r => r

/-- Has the container take over what `file` holds. -/
def load [Memory] (file : String) (s : Session) : Answer × Session :=
  match s.directory.read file with
  | .ok content => s.ask (.deserialize content)
  | .error e => (.failed e, s)

/-- One act. -/
def step [Memory] (a : Act) (s : Session) : Reply × Session :=
  match a with
  | .ask r => let (answer, s) := s.ask r; (.answer answer, s)
  | .configure config => (.nothing, { s with container := s.container.withConfig config })
  | .settings => (.settings s.container.config, s)
  | .usePool pool => (.nothing, { s with pool })
  | .resetPool => (.nothing, { s with pool := s.pool.reset })
  | .poolStats => (.stats s.pool.stats, s)
  | .keepsText => (.flag s.container.raw?.isSome, s)
  | .validateAll schema =>
    let (vs, c) := s.container.validateAll schema
    (.violations vs, { s with container := c })
  | .validate schema =>
    let (v, c) := s.container.validate schema
    (.violation v, { s with container := c })
  | .takeValidated schema input =>
    let (r, c) := s.container.deserializeValidated schema input
    (.admission r, { s with container := c })
  | .save file f => let (answer, s) := s.save file f; (.answer answer, s)
  | .load file => let (answer, s) := s.load file; (.answer answer, s)
  | .useDirectory directory => (.nothing, { s with directory })

/-- What a run of acts is replied to, one after the other. -/
def replies [Memory] : List Act → Session → List Reply
  | [], _ => []
  | a :: rest, s => (s.step a).1 :: replies rest (s.step a).2

end Session

/-- The containers that come about: those of documents, among them the empty ones, those that any
act in any session leaves behind, and copies. -/
inductive Container.Reachable [Memory] : Container → Prop where
  /-- A container of the document `d`. -/
  | ofDocument (policy : Policy) (d : Document) : Reachable (.ofDocument policy d)
  /-- A container after the act `a`. -/
  | step {s : Session} (a : Session.Act) (reachable : Reachable s.container) :
    Reachable (s.step a).2.container
  /-- A copy that was `made` of a container. -/
  | copy {c made : Container} {withValues : Bool} {pool : Pool} (reachable : Reachable c)
    (copied : (c.copy withValues pool).1 = .ok made) : Reachable made

/-- New containers are those of the empty document. -/
theorem Container.Reachable.new [Memory] (policy : Policy) : Reachable (.new policy) :=
  .ofDocument policy .empty

end Parcel
