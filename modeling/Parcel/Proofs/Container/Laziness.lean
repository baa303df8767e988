import Mathlib.Control.Monad.Basic
import Parcel.Proofs.Container.Change

/-!
# Deferring values cannot be noticed

A container that took over a text with its values deferred answers like one that decoded them at
once. The two are *alike*: they have the same header, policy and settings, they keep the same text
if any, and where one has its values in a store the other has the same store, or still the text
whose values fill it. The first operation that needs the store makes it, and from then on the two
stores are one and the same; operations that do not need it keep the two alike.

## Main definitions

* `Content.Alike`, `Container.Alike` — same answers, whatever is deferred
* `Container.Agree` — the same answer, and containers alike

## Main results

* `Container.Alike.access`, `Container.Alike.visit` — reaching the store
* `Container.Alike.perform` — one request
* `Session.Alike.step` — one act
* `Container.parseLazy_alike`, `Session.replies_parseLazy` — deferring and not deferring
-/

namespace Parcel

/-- Texts that are kept on both sides are the same text. -/
def RawText.Same (r r' : RawText) : Prop := r.bytes = r'.bytes

/-- Two contents that give the same answers under a policy. -/
inductive Content.Alike (policy : Policy) : Content → Content → Prop where
  /-- One store, and one text behind it if any. -/
  | held {store : Store} {raw raw' : Option RawText} (same : Option.Rel RawText.Same raw raw') :
    Alike policy (.held store raw) (.held store raw')
  /-- On one side the values are decoded, on the other they can be. -/
  | behind {values : List Named} {r r' : RawText} (same : r.Same r')
    (decoded : r'.values = .ok values) :
    Alike policy (.held (.ofList policy values) (some r)) (.deferred r')
  /-- The values of one text are deferred on both sides. -/
  | deferred {r r' : RawText} (same : r.Same r') : Alike policy (.deferred r) (.deferred r')

namespace Container

/-- Two containers that give the same answers. -/
structure Alike (c c' : Container) : Prop where
  header : c.header = c'.header
  policy : c.policy = c'.policy
  config : c.config = c'.config
  content : Content.Alike c.policy c.content c'.content

/-- The same answer, and containers that give the same answers from then on. -/
structure Agree {α : Type} (r r' : α × Container) : Prop where
  answer : r.1 = r'.1
  alike : Alike r.2 r'.2

variable {c c' : Container} {α : Type}

theorem Agree.exists_eq {r r' : α × Container} (agree : Agree r r') :
    ∃ a d d', r = (a, d) ∧ r' = (a, d') ∧ d.Alike d' := by
  obtain ⟨a, d⟩ := r
  obtain ⟨a', d'⟩ := r'
  obtain ⟨rfl, alike⟩ := agree
  exact ⟨a, d, d', rfl, rfl, alike⟩

theorem Alike.refl (c : Container) : c.Alike c := by
  refine ⟨rfl, rfl, rfl, ?_⟩
  cases c.content with
  | held store raw =>
    refine .held ?_
    cases raw with
    | none => exact .none
    | some r => exact .some rfl
  | deferred r => exact .deferred rfl

/-- A new store leaves no difference. -/
theorem Alike.holding_eq (alike : Alike c c') (store : Store) :
    c.holding store = c'.holding store := by
  obtain ⟨header, policy, content, config⟩ := c
  obtain ⟨header', policy', content', config'⟩ := c'
  obtain ⟨rfl, rfl, rfl, -⟩ := alike
  rfl

/-- Reaching the store gives the same store or the same error. -/
theorem Alike.access (alike : Alike c c') : Agree c.access c'.access := by
  obtain ⟨header, policy, here, config⟩ := c
  obtain ⟨header', policy', there, config'⟩ := c'
  obtain ⟨rfl, rfl, rfl, content⟩ := alike
  change Content.Alike policy here there at content
  cases content with
  | held same => exact ⟨rfl, rfl, rfl, rfl, .held same⟩
  | @behind values r r' same decoded =>
    -- the deferred side decodes the values that the other side has had all along
    have indexed : r'.indexed.values = .ok values := by
      rw [RawText.values_congr (RawText.bytes_indexed r'), decoded]
    have here : access ⟨header, policy, .deferred r', config⟩ =
        (.ok (.ofList policy values),
          ⟨header, policy, .held (.ofList policy values) (some r'.indexed), config⟩) := by
      simp only [Container.access, indexed]
    rw [here]
    exact ⟨rfl, rfl, rfl, rfl, .held (.some (same.trans (RawText.bytes_indexed r').symm))⟩
  | @deferred r r' same =>
    have same' : r.indexed.Same r'.indexed := by
      rw [RawText.Same, RawText.bytes_indexed, RawText.bytes_indexed]
      exact same
    have values : r.indexed.values = r'.indexed.values := RawText.values_congr same'
    cases decoded : r'.indexed.values with
    | ok vs =>
      simp only [Container.access, values, decoded]
      exact ⟨rfl, rfl, rfl, rfl, .held (.some same')⟩
    | error e =>
      simp only [Container.access, values, decoded]
      exact ⟨rfl, rfl, rfl, rfl, .deferred same'⟩

/-- An operation `f` on the store. -/
theorem Alike.visit (alike : Alike c c') (f : Store → Except Error α × Option Store) :
    Agree (c.visit f) (c'.visit f) := by
  obtain ⟨answer, d, d', here, there, alike⟩ := alike.access.exists_eq
  unfold Container.visit
  rw [here, there]
  cases answer with
  | error e => exact ⟨rfl, alike⟩
  | ok store =>
    dsimp only
    -- a new store drops the text, and with it the only difference there was
    split
    · exact ⟨rfl, alike⟩
    · rw [alike.holding_eq]
      exact ⟨rfl, .refl _⟩

theorem Alike.query (alike : Alike c c') (f : Store → Except Error α) :
    Agree (c.query f) (c'.query f) :=
  alike.visit _

theorem Alike.queryOr (alike : Alike c c') (absent : α) (f : Store → α) :
    Agree (c.queryOr absent f) (c'.queryOr absent f) := by
  have asked := alike.query fun store => .ok (f store)
  exact ⟨congrArg (fun answer => answer.toOption.getD absent) asked.answer, asked.alike⟩

theorem Agree.map {β : Type} {r r' : α × Container} (agree : Agree r r') (f : α → β) :
    Agree (f r.1, r.2) (f r'.1, r'.2) :=
  ⟨congrArg f agree.answer, agree.alike⟩

/-! ## Operations on the values -/

theorem Alike.set (alike : Alike c c') (n : Named) : Agree (c.set n) (c'.set n) := by
  unfold Container.set
  split
  · exact ⟨rfl, alike⟩
  · exact alike.visit _

theorem Alike.setAll (alike : Alike c c') (values : List Named) :
    Agree (c.setAll values) (c'.setAll values) := by
  unfold Container.setAll
  split
  · exact ⟨rfl, alike⟩
  · exact alike.visit _

theorem Alike.bulkInsert [Memory] (alike : Alike c c') (values : List Named) :
    Agree (c.bulkInsert values) (c'.bulkInsert values) := by
  unfold Container.bulkInsert
  split
  · exact ⟨rfl, alike⟩
  · split
    · exact ⟨rfl, alike⟩
    · exact alike.visit _

theorem Alike.clear_eq (alike : Alike c c') : c.clear = c'.clear := by
  rw [Container.clear, Container.clear, alike.policy, alike.holding_eq]

theorem Alike.removeBatch (alike : Alike c c') (names : List String) :
    Agree (c.removeBatch names) (c'.removeBatch names) :=
  (alike.visit _).map fun count => count.toOption.getD 0

theorem Alike.updateIf (alike : Alike c c') (u : Update) : Agree (c.updateIf u) (c'.updateIf u) :=
  (alike.visit _).map fun made => made.toOption.getD false

theorem Alike.updateBatchIf (alike : Alike c c') (us : List Update) :
    Agree (c.updateBatchIf us) (c'.updateBatchIf us) :=
  (alike.visit _).map fun made => made.toOption.getD (us.map fun _ => false)

theorem Alike.snapshot (alike : Alike c c') : Agree c.snapshot c'.snapshot := by
  rw [Container.snapshot, Container.snapshot, alike.header]
  exact alike.query _

/-! ## The kept text -/

theorem Alike.raw? (alike : Alike c c') : Option.Rel RawText.Same c.raw? c'.raw? := by
  obtain ⟨header, policy, here, config⟩ := c
  obtain ⟨header', policy', there, config'⟩ := c'
  obtain ⟨rfl, rfl, rfl, content⟩ := alike
  change Content.Alike policy here there at content
  cases content with
  | held same => exact same
  | behind same _ => exact .some same
  | deferred same => exact .some same

theorem Alike.ensureIndex (alike : Alike c c') : Agree c.ensureIndex c'.ensureIndex := by
  have indexed {r r' : RawText} (same : r.Same r') : r.indexed.Same r'.indexed := by
    rw [RawText.Same, RawText.bytes_indexed, RawText.bytes_indexed]
    exact same
  obtain ⟨header, policy, here, config⟩ := c
  obtain ⟨header', policy', there, config'⟩ := c'
  obtain ⟨rfl, rfl, rfl, content⟩ := alike
  change Content.Alike policy here there at content
  cases content with
  | held same =>
    cases same with
    | none => exact ⟨rfl, rfl, rfl, rfl, .held .none⟩
    | some same =>
      exact ⟨congrArg (Except.map _) (RawText.entries_congr same), rfl, rfl, rfl,
        .held (.some (indexed same))⟩
  | @behind values r r' same decoded =>
    have decoded' : r'.indexed.values = .ok values := by
      rw [RawText.values_congr (RawText.bytes_indexed r'), decoded]
    exact ⟨congrArg (Except.map _) (RawText.entries_congr same), rfl, rfl, rfl,
      .behind (indexed same) decoded'⟩
  | deferred same =>
    exact ⟨congrArg (Except.map _) (RawText.entries_congr same), rfl, rfl, rfl,
      .deferred (indexed same)⟩

theorem Alike.view? (alike : Alike c c') (key : String) : Agree (c.view? key) (c'.view? key) := by
  refine ⟨?_, alike.ensureIndex.alike⟩
  have kept := alike.raw?
  change c.raw?.bind _ = c'.raw?.bind _
  generalize c.raw? = raw at kept
  generalize c'.raw? = raw' at kept
  cases kept with
  | none => rfl
  | some same => exact RawText.view?_congr key same

theorem Alike.views (alike : Alike c c') : Agree c.views c'.views := by
  refine ⟨?_, alike.ensureIndex.alike⟩
  have kept := alike.raw?
  change (c.raw?.map _).getD [] = (c'.raw?.map _).getD []
  generalize c.raw? = raw at kept
  generalize c'.raw? = raw' at kept
  cases kept with
  | none => rfl
  | some same => exact RawText.views_congr same

/-! ## Reading and writing -/

/-- The same answer and pool, and containers that give the same answers from then on. -/
structure AgreeOn {α : Type} (r r' : α × Container × Pool) : Prop where
  answer : r.1 = r'.1
  alike : Alike r.2.1 r'.2.1
  pool : r.2.2 = r'.2.2

theorem Alike.deserializeAs (alike : Alike c c') (s : Bytes) (f : Format) :
    Agree (c.deserializeAs s f) (c'.deserializeAs s f) := by
  have checked : c.checkSize s = c'.checkSize s := by
    rw [Container.checkSize, Container.checkSize, alike.config]
  have received (d : Document) (raw : Option RawText) :
      c.holdingDocument d raw = c'.holdingDocument d raw := by
    obtain ⟨header, policy, here, config⟩ := c
    obtain ⟨header', policy', there, config'⟩ := c'
    obtain ⟨rfl, rfl, rfl, -⟩ := alike
    rfl
  unfold Container.deserializeAs
  rw [checked, alike.config]
  split
  · exact ⟨rfl, alike⟩
  · dsimp only
    rw [received]
    exact ⟨rfl, .refl _⟩

theorem Alike.deserialize (alike : Alike c c') (s : Bytes) :
    Agree (c.deserialize s) (c'.deserialize s) := by
  unfold Container.deserialize
  split
  · exact ⟨rfl, alike⟩
  · exact alike.deserializeAs s _

theorem Alike.parseLazy (alike : Alike c c') (s : Bytes) :
    Agree (c.parseLazy s) (c'.parseLazy s) := by
  have checked : c.checkSize s = c'.checkSize s := by
    rw [Container.checkSize, Container.checkSize, alike.config]
  unfold Container.parseLazy
  rw [checked]
  split
  · exact ⟨rfl, alike⟩
  · split
    · exact ⟨rfl, alike⟩
    · split
      · exact ⟨rfl, alike⟩
      · exact ⟨rfl, rfl, alike.policy, alike.config, .deferred rfl⟩

/-- Writing and copying go by `snapshot` alone. -/
theorem Alike.serialize [Memory] (alike : Alike c c') (f : Format) (pool : Pool) :
    AgreeOn (c.serialize f pool) (c'.serialize f pool) := by
  obtain ⟨answer, d, d', here, there, alike⟩ := alike.snapshot.exists_eq
  unfold Container.serialize
  rw [here, there]
  cases answer with
  | error e => exact ⟨rfl, alike, rfl⟩
  | ok d =>
    dsimp only
    split
    · exact ⟨rfl, alike, rfl⟩
    · split <;> exact ⟨rfl, alike, rfl⟩

theorem Alike.serializeText [Memory] (alike : Alike c c') (f : Format) (pool : Pool) :
    AgreeOn (c.serializeText f pool) (c'.serializeText f pool) := by
  have written := alike.serialize f pool
  unfold Container.serializeText
  split
  · exact ⟨rfl, alike, rfl⟩
  · exact ⟨congrArg (Except.bind · _) written.answer, written.alike, written.pool⟩

theorem Alike.copy [Memory] (alike : Alike c c') (withValues : Bool) (pool : Pool) :
    AgreeOn (c.copy withValues pool) (c'.copy withValues pool) := by
  obtain ⟨answer, d, d', here, there, alike⟩ := alike.snapshot.exists_eq
  unfold Container.copy
  rw [here, there]
  cases answer with
  | error e => exact ⟨rfl, alike, rfl⟩
  | ok whole =>
    dsimp only
    split
    · exact ⟨rfl, alike, rfl⟩
    · rw [alike.policy, alike.config]
      exact ⟨rfl, alike, rfl⟩

/-! ## Requests -/

theorem Agree.keeping {r r' : α × Container} (agree : Agree r r') (pool : Pool) (f : α → Answer) :
    AgreeOn (Request.keeping pool f r) (Request.keeping pool f r') :=
  ⟨congrArg f agree.answer, agree.alike, rfl⟩

theorem AgreeOn.passing {r r' : α × Container × Pool} (agree : AgreeOn r r') (f : α → Answer) :
    AgreeOn (Request.passing f r) (Request.passing f r') :=
  ⟨congrArg f agree.answer, agree.alike, agree.pool⟩

/-- One request. -/
theorem Alike.perform [Memory] (alike : Alike c c') (r : Request) (pool : Pool) :
    AgreeOn (r.perform c pool) (r.perform c' pool) := by
  cases r with
  | set n => exact (alike.set n).keeping pool _
  | setAll values => exact (alike.setAll values).keeping pool _
  | bulkInsert values => exact (alike.bulkInsert values).keeping pool _
  | remove key => exact (alike.visit _).keeping pool _
  | clear =>
    refine ⟨rfl, ?_, rfl⟩
    change Alike c.clear c'.clear
    rw [alike.clear_eq]
    exact .refl _
  | removeBatch names => exact (alike.removeBatch names).keeping pool _
  | updateIf u => exact (alike.updateIf u).keeping pool _
  | updateBatchIf us => exact (alike.updateBatchIf us).keeping pool _
  | get key target => exact (alike.query _).keeping pool _
  | getValue key => exact (alike.queryOr _ _).keeping pool _
  | contains key => exact (alike.queryOr _ _).keeping pool _
  | size => exact (alike.queryOr _ _).keeping pool _
  | keys => exact (alike.queryOr _ _).keeping pool _
  | values => exact (alike.queryOr _ _).keeping pool _
  | snapshot => exact alike.snapshot.keeping pool _
  | getBatch names => exact (alike.queryOr _ _).keeping pool _
  | getBatchMap names => exact (alike.queryOr _ _).keeping pool _
  | containsBatch names => exact (alike.queryOr _ _).keeping pool _
  -- the header is kept apart from the content, which these leave alone
  | header => exact ⟨congrArg Answer.header alike.header, alike, rfl⟩
  | setHeader h => exact ⟨rfl, ⟨rfl, alike.policy, alike.config, alike.content⟩, rfl⟩
  | setFields fields =>
    exact ⟨rfl, ⟨congrArg (·.setAll fields) alike.header, alike.policy, alike.config,
      alike.content⟩, rfl⟩
  | swapHeader =>
    exact ⟨rfl, ⟨congrArg Header.swap alike.header, alike.policy, alike.config, alike.content⟩, rfl⟩
  | serialize f => exact (alike.serialize f pool).passing _
  | serializeText f => exact (alike.serializeText f pool).passing _
  | deserialize s => exact (alike.deserialize s).keeping pool _
  | deserializeAs s f => exact (alike.deserializeAs s f).keeping pool _
  | parseLazy s => exact (alike.parseLazy s).keeping pool _
  | copy withValues => exact (alike.copy withValues pool).passing _
  | ensureIndex => exact alike.ensureIndex.keeping pool _
  | view key => exact (alike.view? key).keeping pool _
  | views => exact alike.views.keeping pool _

/-! ## Schemas -/

theorem Alike.validateAll (alike : Alike c c') (schema : Schema) :
    Agree (c.validateAll schema) (c'.validateAll schema) := by
  obtain ⟨answer, d, d', here, there, alike⟩ := alike.snapshot.exists_eq
  unfold Container.validateAll
  rw [here, there]
  dsimp only
  rw [alike.header]
  exact ⟨rfl, alike⟩

theorem Alike.validate (alike : Alike c c') (schema : Schema) :
    Agree (c.validate schema) (c'.validate schema) :=
  (alike.validateAll schema).map List.head?

theorem Alike.deserializeValidated (alike : Alike c c') (schema : Schema) (input : Bytes) :
    Agree (c.deserializeValidated schema input) (c'.deserializeValidated schema input) := by
  obtain ⟨answer, d, d', here, there, alike⟩ := (alike.deserialize input).exists_eq
  unfold Container.deserializeValidated
  rw [here, there]
  cases answer with
  | error e => exact ⟨rfl, alike⟩
  | ok done =>
    obtain ⟨violations, d, d', here, there, alike⟩ := (alike.validateAll schema).exists_eq
    dsimp only
    rw [here, there]
    cases violations <;> exact ⟨rfl, alike⟩

end Container

/-! ## Runs -/

namespace Session

/-- Two sessions that give the same replies. -/
structure Alike (s s' : Session) : Prop where
  container : s.container.Alike s'.container
  pool : s.pool = s'.pool
  directory : s.directory = s'.directory

variable {s s' : Session}

theorem Alike.ask [Memory] (alike : Alike s s') (r : Request) :
    (s.ask r).1 = (s'.ask r).1 ∧ Alike (s.ask r).2 (s'.ask r).2 := by
  have performed := alike.container.perform r s.pool
  unfold Session.ask
  rw [← alike.pool]
  exact ⟨performed.answer, performed.alike, performed.pool, alike.directory⟩

theorem Alike.save [Memory] (alike : Alike s s') (file : String) (f : Format) :
    (s.save file f).1 = (s'.save file f).1 ∧ Alike (s.save file f).2 (s'.save file f).2 := by
  have asked := alike.ask (.serialize f)
  unfold Session.save
  generalize s.ask (.serialize f) = r at asked
  generalize s'.ask (.serialize f) = r' at asked
  obtain ⟨answer, t⟩ := r
  obtain ⟨answer', t'⟩ := r'
  obtain ⟨rfl, alike⟩ := asked
  cases answer with
  | encoded content =>
    dsimp only
    rw [alike.directory]
    exact ⟨rfl, alike.container, alike.pool, rfl⟩
  | _ => exact ⟨rfl, alike⟩

theorem Alike.load [Memory] (alike : Alike s s') (file : String) :
    (s.load file).1 = (s'.load file).1 ∧ Alike (s.load file).2 (s'.load file).2 := by
  unfold Session.load
  rw [alike.directory]
  split
  · exact alike.ask _
  · exact ⟨rfl, alike⟩

/-- One act, whose reply is the same and which leaves containers that are `Alike`. -/
theorem Alike.step [Memory] (alike : Alike s s') (a : Act) :
    (s.step a).1 = (s'.step a).1 ∧ Alike (s.step a).2 (s'.step a).2 := by
  have here := alike.container
  cases a with
  | ask r => exact ⟨congrArg Reply.answer (alike.ask r).1, (alike.ask r).2⟩
  | configure config =>
    -- the header gets the type and version of the settings, whatever the contents
    refine ⟨rfl, ⟨?_, here.policy, rfl, here.content⟩, alike.pool, alike.directory⟩
    exact congrArg
      (fun h => { h with messageType := config.messageType, version := config.version }) here.header
  | settings => exact ⟨congrArg Reply.settings here.config, alike⟩
  | usePool pool => exact ⟨rfl, here, rfl, alike.directory⟩
  | resetPool => exact ⟨rfl, here, congrArg Pool.reset alike.pool, alike.directory⟩
  | poolStats => exact ⟨congrArg (fun pool : Pool => Reply.stats pool.stats) alike.pool, alike⟩
  | keepsText =>
    refine ⟨congrArg Reply.flag ?_, alike⟩
    have kept := here.raw?
    generalize s.container.raw? = raw at kept
    generalize s'.container.raw? = raw' at kept
    cases kept <;> rfl
  | validateAll schema =>
    have done := here.validateAll schema
    exact ⟨congrArg Reply.violations done.answer, done.alike, alike.pool, alike.directory⟩
  | validate schema =>
    have done := here.validate schema
    exact ⟨congrArg Reply.violation done.answer, done.alike, alike.pool, alike.directory⟩
  | takeValidated schema input =>
    have done := here.deserializeValidated schema input
    exact ⟨congrArg Reply.admission done.answer, done.alike, alike.pool, alike.directory⟩
  | save file f => exact ⟨congrArg Reply.answer (alike.save file f).1, (alike.save file f).2⟩
  | load file => exact ⟨congrArg Reply.answer (alike.load file).1, (alike.load file).2⟩
  | useDirectory directory => exact ⟨rfl, here, alike.pool, rfl⟩

/-- Any run of `acts`, by induction from one. -/
theorem Alike.replies_eq [Memory] (acts : List Act) (alike : Alike s s') :
    replies acts s = replies acts s' := by
  induction acts generalizing s s' with
  | nil => rfl
  | cons a rest ih =>
    obtain ⟨reply, alike⟩ := alike.step a
    rw [replies, replies, reply, ih alike]

end Session

/-! ## Deferring -/

namespace Container

/-- A text that `deserializeAs` accepts is accepted by `parseLazy`, and the containers are `Alike`.
-/
theorem parseLazy_alike {c : Container} {s : Bytes} (retains : c.config.retainsRaw = true)
    (accepted : (c.deserializeAs s .text).1 = .ok ()) :
    (c.parseLazy s).1 = .ok () ∧ Alike (c.deserializeAs s .text).2 (c.parseLazy s).2 := by
  obtain ⟨e, refused⟩ | ⟨d, small, decoded, received⟩ := deserializeAs_cases s .text c
  · rw [refused] at accepted
    cases accepted
  obtain ⟨entries, scanned, -⟩ :=
    Delimited.exists_scan_of_decode (Except.eq_ok_of_mapError_eq_ok decoded)
  have detected : Format.detect? s = some .text := Delimited.detect?_of_scan scanned
  have headed : Delimited.scanHeader s = .ok d.header := Delimited.scanHeader_of_scan scanned
  have deferred : c.parseLazy s =
      (.ok (), { c with header := d.header, content := .deferred (.of s) }) := by
    unfold Container.parseLazy
    rw [small, if_neg (not_not_intro detected), headed]
    rfl
  have values : (RawText.of s).values = .ok d.values := by
    rw [RawText.values_eq, RawText.of, decoded]
    rfl
  rw [received, deferred, if_pos ⟨rfl, retains⟩]
  exact ⟨rfl, rfl, rfl, rfl, .behind rfl values⟩

end Container

/-- A container that keeps texts and accepts `s` with its values decoded also accepts it with its
values deferred, and afterwards no run of `acts` tells the two containers apart, whatever pool and
directory they work on. -/
theorem Session.replies_parseLazy [Memory] {c : Container} {s : Bytes}
    (retains : c.config.retainsRaw = true)
    (accepted : (c.deserializeAs s .text).1 = .ok ()) :
    (c.parseLazy s).1 = .ok () ∧ ∀ pool directory acts,
      replies acts ⟨(c.deserializeAs s .text).2, pool, directory⟩ =
        replies acts ⟨(c.parseLazy s).2, pool, directory⟩ := by
  obtain ⟨taken, alike⟩ := Container.parseLazy_alike retains accepted
  refine ⟨taken, ?_⟩
  intro pool directory acts
  exact Alike.replies_eq acts ⟨alike, rfl, rfl⟩

/-- A text with a header that has a message type, and with blanks where they are allowed. -/
def Session.spacedText : Bytes :=
  Utf8.encode "@header =\x7b[5,note]; [6,2.0];\x7d; @data=\x7b [a,1,1]; [b, 4 ,+7]; \x7d"

open scoped Memory.Plenty

theorem Session.replies_parseLazy_spacedText :
    (Container.new .indexed).config.retainsRaw = true ∧
      ((Container.new .indexed).deserializeAs spacedText .text).1 = .ok () ∧
      ((Container.new .indexed).parseLazy spacedText).1 = .ok () ∧
      replies [.ask .swapHeader, .ask (.view "a"), .ask (.remove "a"), .ask .values, .keepsText]
          ⟨((Container.new .indexed).deserializeAs spacedText .text).2, .direct 0, .empty "."⟩ =
        replies [.ask .swapHeader, .ask (.view "a"), .ask (.remove "a"), .ask .values, .keepsText]
          ⟨((Container.new .indexed).parseLazy spacedText).2, .direct 0, .empty "."⟩ := by
  have accepted : ((Container.new .indexed).deserializeAs spacedText .text).1 = .ok () := by
    decide +kernel
  obtain ⟨taken, same⟩ := replies_parseLazy (c := .new .indexed) rfl accepted
  exact ⟨rfl, accepted, taken, same _ _ _⟩

end Parcel
