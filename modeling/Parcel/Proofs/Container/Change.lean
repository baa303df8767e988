import Parcel.Proofs.Container.Raw
import Parcel.Proofs.Container.Session
import Parcel.Proofs.Store.Edit

/-!
# Changes of a container

Every act on a container comes down to a few changes: other labels, scanning or decoding what is
kept, edits of the store, no values at all, and taking over what an input holds with its values
decoded or deferred. A property that no change breaks holds for every container that comes about.
Changes tell which documents may be taken over, so a property can also be followed that some
documents would break.

## Main definitions

* `Container.Change` — one change
* `Container.Changes` — any number of changes
* `Request.TakesOver`, `Session.TakesOver` — which document a request or an act takes over

## Main results

* `Container.changes_perform` — what a request does to the container is changes
* `Session.changes_step` — so is what an act does
* `Container.Reachable.exists_changes` — where a container that comes about has come from
-/

namespace Parcel

namespace Container

/-- One change, where the documents that may be taken over are given by `taken` with their formats.
-/
inductive Change (taken : Format → Document → Prop) (c : Container) : Container → Prop where
  /-- The header becomes `header` and the settings `config`. -/
  | relabel (header : Header) (config : Config) : Change taken c { c with header, config }
  /-- The kept text is scanned. -/
  | index : Change taken c c.ensureIndex.2
  /-- The deferred values are decoded. -/
  | access : Change taken c c.access.2
  /-- The store is edited into `made`, and the text that it was filled from is dropped. -/
  | edit {store made : Store} (reached : c.access.1 = .ok store) (edited : store.Edited made) :
    Change taken c (c.holding made)
  /-- The values are dropped. -/
  | clear : Change taken c c.clear
  /-- What an input holds is taken over, and the input is kept if it is a text. -/
  | receive {s : Bytes} {f : Format} {d : Document} {raw : Option RawText}
    (allowed : taken f d) (decoded : Codec.decode f s = .ok d)
    (kept : ∀ r ∈ raw, f = .text ∧ r = .of s) :
    Change taken c (c.holdingDocument d raw)
  /-- The `header` of a text is taken over, and its values wait. -/
  | defer {s : Bytes} {header : Header} (headed : Delimited.scanHeader s = .ok header) :
    Change taken c { c with header, content := .deferred (.of s) }

/-- Any number of changes. -/
def Changes (taken : Format → Document → Prop) : Container → Container → Prop :=
  Relation.ReflTransGen (Change taken)

variable {taken taken' : Format → Document → Prop} {c c' : Container} {α : Type}

theorem Change.changes (change : c.Change taken c') : c.Changes taken c' := .single change

theorem Changes.refl (c : Container) : c.Changes taken c := Relation.ReflTransGen.refl

theorem Change.mono (change : c.Change taken c') (le : ∀ f d, taken f d → taken' f d) :
    c.Change taken' c' := by
  cases change with
  | relabel header config => exact .relabel header config
  | index => exact .index
  | access => exact .access
  | edit reached edited => exact .edit reached edited
  | clear => exact .clear
  | receive allowed decoded kept => exact .receive (le _ _ allowed) decoded kept
  | defer headed => exact .defer headed

/-- `Changes` allows for more documents when more may be `taken` over. -/
theorem Changes.mono (changes : c.Changes taken c') (le : ∀ f d, taken f d → taken' f d) :
    c.Changes taken' c' := by
  induction changes with
  | refl => exact .refl c
  | tail _ change ih => exact ih.tail (change.mono le)

/-! ## The values -/

/-- Decoding by `access` changes neither header nor policy nor settings. -/
theorem exists_access_eq (c : Container) : ∃ content, c.access.2 = { c with content } := by
  obtain ⟨header, policy, content, config⟩ := c
  cases content with
  | held store raw => exact ⟨_, rfl⟩
  | deferred raw =>
    cases decoded : raw.indexed.values <;> simp only [Container.access, decoded] <;> exact ⟨_, rfl⟩

theorem holding_access (c : Container) (store : Store) :
    c.access.2.holding store = c.holding store := by
  obtain ⟨content, reached⟩ := exists_access_eq c
  rw [reached]
  rfl

/-- An operation `f` on the store makes changes, when all that it does to the store is edits. -/
theorem changes_visit {f : Store → Except Error α × Option Store}
    (edits : ∀ store made, (f store).2 = some made → store.Edited made) (c : Container) :
    c.Changes taken (c.visit f).2 := by
  have reached : c.Change taken c.access.2 := .access
  have edit {store made : Store} : c.access.1 = .ok store → store.Edited made →
      c.Change taken (c.access.2.holding made) := by
    rw [holding_access]
    exact .edit
  unfold Container.visit
  generalize c.access = r at reached edit
  obtain ⟨answer, d⟩ := r
  cases answer with
  | error e => exact reached.changes
  | ok store =>
    have edited := edits store
    dsimp only
    generalize f store = outcome at edited
    obtain ⟨result, made⟩ := outcome
    cases made with
    | none => exact reached.changes
    | some made => exact (edit rfl (edited made rfl)).changes

/-- A question to the store decodes the values at most. -/
theorem query_access (f : Store → Except Error α) (c : Container) :
    (c.query f).2 = c.access.2 := by
  unfold Container.query Container.visit
  split <;> next h => rw [h]

theorem changes_query (f : Store → Except Error α) (c : Container) :
    c.Changes taken (c.query f).2 := by
  rw [query_access]
  exact Change.access.changes

theorem changes_set (n : Named) (c : Container) : c.Changes taken (c.set n).2 := by
  unfold Container.set
  split
  · exact .refl c
  · next named =>
    refine changes_visit ?_ c
    rintro store - ⟨⟩
    exact (Store.Edit.set named).edited

theorem allNamed_iff {values : List Named} :
    allNamed values = true ↔ ∀ n ∈ values, n.name ≠ "" := by
  simp [allNamed]

theorem changes_setAll (values : List Named) (c : Container) :
    c.Changes taken (c.setAll values).2 := by
  unfold Container.setAll
  split
  · exact .refl c
  · next accepted =>
    have named : allNamed values = true := by simpa using accepted
    refine changes_visit ?_ c
    intro store made answer
    dsimp only at answer
    split at answer
    · cases answer
    · cases answer
      exact Store.edited_setAll (allNamed_iff.mp named)

theorem changes_bulkInsert [Memory] (values : List Named) (c : Container) :
    c.Changes taken (c.bulkInsert values).2 := by
  unfold Container.bulkInsert
  split
  · exact .refl c
  · next accepted =>
    have named : allNamed values = true := by simpa using accepted
    split
    · exact .refl c
    · refine changes_visit ?_ c
      intro store made answer
      split at answer
      · cases answer
      · cases answer
        exact Store.edited_pushAll (allNamed_iff.mp named)

theorem changes_remove (key : String) (c : Container) : c.Changes taken (c.remove key).2 := by
  refine changes_visit ?_ c
  intro store made answer
  have edit : store.Edit (store.remove key).1 := .remove key
  generalize store.remove key = removed at answer edit
  obtain ⟨t, found⟩ := removed
  cases found with
  | false => cases answer
  | true => cases answer; exact edit.edited

theorem changes_removeBatch (names : List String) (c : Container) :
    c.Changes taken (c.removeBatch names).2 := by
  refine changes_visit ?_ c
  intro store made answer
  have edited := Store.edited_removeAll names store
  dsimp only at answer
  split at answer
  · cases answer
  · cases answer
    exact edited

theorem changes_updateIf (u : Update) (c : Container) : c.Changes taken (c.updateIf u).2 := by
  refine changes_visit ?_ c
  intro store made answer
  split at answer
  · next updated =>
    cases answer
    exact Store.edited_updateIf? updated
  · cases answer

theorem changes_updateBatchIf (us : List Update) (c : Container) :
    c.Changes taken (c.updateBatchIf us).2 := by
  refine changes_visit ?_ c
  intro store made answer
  have edited := Store.edited_updateAll us store
  dsimp only at answer
  split at answer
  · cases answer
    exact edited
  · cases answer

/-! ## Reading and writing -/

theorem checkSize_eq_ok_iff {s : Bytes} {c : Container} :
    c.checkSize s = .ok () ↔ s.length ≤ c.config.maxBytes := by
  rw [Container.checkSize]
  split
  · next small => exact ⟨fun _ => small, fun _ => rfl⟩
  · next large => exact ⟨nofun, fun small => absurd small large⟩

/-- An input `s` that the container can take over, and the document `d` in it. -/
structure Receives (c : Container) (f : Format) (s : Bytes) (d : Document) : Prop where
  small : s.length ≤ c.config.maxBytes
  decoded : Codec.decode f s = .ok d

/-- An input that `checkSize` lets through and that can be decoded is taken over; any other leaves
the container as it is. -/
theorem deserializeAs_cases (s : Bytes) (f : Format) (c : Container) :
    (∃ e, c.deserializeAs s f = (.error e, c)) ∨
      ∃ d, c.checkSize s = .ok () ∧ Codec.decode f s = .ok d ∧
        c.deserializeAs s f = (.ok (), c.holdingDocument d
          (if f = .text ∧ c.config.retainsRaw then some (.of s) else none)) := by
  unfold Container.deserializeAs
  cases small : c.checkSize s with
  | error e => exact .inl ⟨e, rfl⟩
  | ok u =>
    cases decoded : Codec.decode f s with
    | error e => exact .inl ⟨e, rfl⟩
    | ok d => exact .inr ⟨d, rfl, rfl, rfl⟩

theorem changes_deserializeAs {s : Bytes} {f : Format} {c : Container}
    (allowed : ∀ d, c.Receives f s d → taken f d) : c.Changes taken (c.deserializeAs s f).2 := by
  obtain ⟨e, refused⟩ | ⟨d, small, decoded, received⟩ := deserializeAs_cases s f c
  · rw [refused]
    exact .refl c
  · rw [received]
    refine (Change.receive (allowed d ⟨checkSize_eq_ok_iff.1 small, decoded⟩) decoded ?_).changes
    intro r kept
    split at kept
    · next retains =>
      cases kept
      exact ⟨retains.1, rfl⟩
    · cases kept

theorem changes_deserialize {s : Bytes} {c : Container}
    (allowed : ∀ f d, Format.detect? s = some f → c.Receives f s d → taken f d) :
    c.Changes taken (c.deserialize s).2 := by
  unfold Container.deserialize
  split
  · exact .refl c
  · next f found => exact changes_deserializeAs fun d => allowed f d found

theorem changes_parseLazy (s : Bytes) (c : Container) : c.Changes taken (c.parseLazy s).2 := by
  unfold Container.parseLazy
  split
  · exact .refl c
  · split
    · exact .refl c
    · cases headed : Delimited.scanHeader s with
      | error fault => exact .refl c
      | ok header => exact (Change.defer headed).changes

/-- Writing leaves what `access` leaves, so it decodes the values at most. -/
theorem serialize_access [Memory] (f : Format) (c : Container) (pool : Pool) :
    (c.serialize f pool).2.1 = c.access.2 := by
  have taken : c.snapshot.2 = c.access.2 := query_access _ c
  rw [← taken]
  unfold Container.serialize
  generalize c.snapshot = r
  obtain ⟨answer, d⟩ := r
  cases answer with
  | error e => rfl
  | ok d =>
    dsimp only
    split
    · rfl
    · split <;> rfl

/-- Copying leaves what `access` leaves, and a copy is what the container would be if it took over a
text. -/
theorem copy_access [Memory] (withValues : Bool) (c : Container) (pool : Pool) :
    (c.copy withValues pool).2.1 = c.access.2 ∧
      ∀ made, (c.copy withValues pool).1 = .ok made →
        ∃ s d, Codec.decode .text s = .ok d ∧ made = c.holdingDocument d none := by
  have taken : c.snapshot.2 = c.access.2 := query_access _ c
  have same : ∃ content, c.snapshot.2 = { c with content } := taken ▸ exists_access_eq c
  rw [← taken]
  unfold Container.copy
  generalize c.snapshot = r at same
  obtain ⟨answer, d⟩ := r
  obtain ⟨content, rfl⟩ := same
  cases answer with
  | error e => exact ⟨rfl, fun made copied => nomatch copied⟩
  | ok whole =>
    dsimp only
    split
    · exact ⟨rfl, fun made copied => nomatch copied⟩
    · refine ⟨rfl, ?_⟩
      intro made copied
      obtain ⟨read, decoded, rfl⟩ := Except.exists_of_map_eq_ok copied
      obtain ⟨-, -, decoded⟩ := Except.exists_of_bind_eq_ok decoded
      exact ⟨_, read, decoded, rfl⟩

end Container

/-! ## Requests and acts -/

/-- The input that a request offers to the container, with its format. -/
def Request.offered? : Request → Option (Format × Bytes)
  | .deserialize s => (Format.detect? s).map (·, s)
  | .deserializeAs s f => some (f, s)
  | _ => none

/-- A request has the container take over the document `d` in the format `f`. -/
def Request.TakesOver (r : Request) (c : Container) (f : Format) (d : Document) : Prop :=
  ∃ s, r.offered? = some (f, s) ∧ c.Receives f s d

namespace Container

variable {taken taken' : Format → Document → Prop} {c c' : Container} {α : Type}

/-- What `perform` does to the container is changes, with the documents that `TakesOver` allows. -/
theorem changes_perform [Memory] (r : Request) (c : Container) (pool : Pool) :
    c.Changes (r.TakesOver c) (r.perform c pool).2.1 := by
  have written (f : Format) : c.Changes (r.TakesOver c) (c.serialize f pool).2.1 := by
    rw [serialize_access]
    exact Change.access.changes
  -- what only asks decodes the values at most, whatever it answers
  cases r with
  | set n => exact changes_set n c
  | setAll values => exact changes_setAll values c
  | bulkInsert values => exact changes_bulkInsert values c
  | remove key => exact changes_remove key c
  | clear => exact Change.clear.changes
  | removeBatch names => exact changes_removeBatch names c
  | updateIf u => exact changes_updateIf u c
  | updateBatchIf us => exact changes_updateBatchIf us c
  | get key target => exact changes_query _ c
  | getValue key => exact changes_query _ c
  | contains key => exact changes_query _ c
  | size => exact changes_query _ c
  | keys => exact changes_query _ c
  | values => exact changes_query _ c
  | snapshot => exact changes_query _ c
  | getBatch names => exact changes_query _ c
  | getBatchMap names => exact changes_query _ c
  | containsBatch names => exact changes_query _ c
  | header => exact .refl c
  | setHeader h => exact (Change.relabel h c.config).changes
  | setFields fields => exact (Change.relabel (c.header.setAll fields) c.config).changes
  | swapHeader => exact (Change.relabel c.header.swap c.config).changes
  | serialize f => exact written f
  | serializeText f =>
    change c.Changes _ (c.serializeText f pool).2.1
    unfold Container.serializeText
    split
    · exact .refl c
    · exact written f
  | deserialize s =>
    refine changes_deserialize fun f d found received => ⟨s, ?_, received⟩
    rw [Request.offered?, found]
    rfl
  | deserializeAs s f => exact changes_deserializeAs fun d received => ⟨s, rfl, received⟩
  | parseLazy s => exact changes_parseLazy s c
  | copy withValues =>
    change c.Changes _ (c.copy withValues pool).2.1
    rw [(copy_access withValues c pool).1]
    exact Change.access.changes
  | ensureIndex => exact Change.index.changes
  | view key => exact Change.index.changes
  | views => exact Change.index.changes

/-- Validation decodes the values at most. -/
theorem validateAll_access (schema : Schema) (c : Container) :
    (c.validateAll schema).2 = c.access.2 := by
  have taken : c.snapshot.2 = c.access.2 := query_access _ c
  rw [← taken]
  rfl

theorem changes_deserializeValidated (schema : Schema) {input : Bytes} {c : Container}
    (allowed : ∀ f d, Format.detect? input = some f → c.Receives f input d → taken f d) :
    c.Changes taken (c.deserializeValidated schema input).2 := by
  have received := changes_deserialize allowed
  unfold Container.deserializeValidated
  generalize c.deserialize input = r at received
  obtain ⟨answer, d⟩ := r
  cases answer with
  | error e => exact received
  | ok done =>
    have validated : d.Changes taken (d.validateAll schema).2 := by
      rw [validateAll_access]
      exact Change.access.changes
    dsimp only
    generalize d.validateAll schema = r at validated
    obtain ⟨violations, d'⟩ := r
    cases violations <;> exact received.trans validated

end Container

namespace Session

open Container (Change Changes)

variable {s : Session}

/-- The input that the act `a` offers to the container, with its format. -/
def offered? (a : Act) (s : Session) : Option (Format × Bytes) :=
  match a with
  | .ask r => r.offered?
  | .takeValidated _ input => (Request.deserialize input).offered?
  | .load file =>
    (s.directory.read file).toOption.bind fun content => (Request.deserialize content).offered?
  | _ => none

/-- An act has the container take over the document `d` in the format `f`. -/
def TakesOver (s : Session) (a : Act) (f : Format) (d : Document) : Prop :=
  ∃ input, s.offered? a = some (f, input) ∧ s.container.Receives f input d

theorem changes_ask [Memory] (r : Request) (s : Session) :
    s.container.Changes (r.TakesOver s.container) (s.ask r).2.container :=
  Container.changes_perform r s.container s.pool

/-- What `step` does to the container is changes, with the documents that `TakesOver` allows. -/
theorem changes_step [Memory] (a : Act) (s : Session) :
    s.container.Changes (s.TakesOver a) (s.step a).2.container := by
  cases a with
  | ask r => exact changes_ask r s
  | configure config => exact (Change.relabel _ config).changes
  | settings | usePool | resetPool | poolStats | keepsText | useDirectory =>
    exact Changes.refl s.container
  | validateAll schema =>
    change s.container.Changes _ (s.container.validateAll schema).2
    rw [Container.validateAll_access]
    exact Change.access.changes
  | validate schema =>
    change s.container.Changes _ (s.container.validateAll schema).2
    rw [Container.validateAll_access]
    exact Change.access.changes
  | takeValidated schema input =>
    refine Container.changes_deserializeValidated schema ?_
    intro f d found received
    refine ⟨input, ?_, received⟩
    rw [offered?, Request.offered?, found]
    rfl
  -- what is saved has been serialized, which takes nothing over
  | save file f =>
    have asked := changes_ask (.serialize f) s
    have nothing (f' : Format) (d : Document) :
        (Request.serialize f).TakesOver s.container f' d → s.TakesOver (.save file f) f' d :=
      fun ⟨_, offered, _⟩ => nomatch offered
    change s.container.Changes _ (s.save file f).2.container
    unfold Session.save
    generalize s.ask (.serialize f) = r at asked
    obtain ⟨answer, t⟩ := r
    cases answer <;> exact asked.mono nothing
  | load file =>
    change s.container.Changes _ (s.load file).2.container
    unfold Session.load
    split
    · next content read =>
      refine (changes_ask _ s).mono ?_
      rintro f d ⟨input, offered, received⟩
      refine ⟨input, ?_, received⟩
      rw [offered?, read]
      exact offered
    · -- the file could not be read, so nothing is offered
      exact Changes.refl s.container

end Session

/-- A `Reachable` container has come from a document by changes. -/
theorem Container.Reachable.exists_changes [Memory] {c : Container} (reachable : c.Reachable) :
    ∃ policy d, (Container.ofDocument policy d).Changes (fun _ _ => True) c := by
  induction reachable with
  | ofDocument policy d => exact ⟨policy, d, .refl _⟩
  | @step s a _ ih =>
    obtain ⟨policy, d, changes⟩ := ih
    have further : s.container.Changes (fun _ _ => True) (s.step a).2.container :=
      (Session.changes_step a s).mono fun _ _ _ => trivial
    exact ⟨policy, d, changes.trans further⟩
  | @copy c made withValues pool _ copied ih =>
    obtain ⟨policy, d, changes⟩ := ih
    obtain ⟨s, read, decoded, rfl⟩ := (copy_access withValues c pool).2 made copied
    exact ⟨policy, d, changes.tail (.receive trivial decoded nofun)⟩

end Parcel
