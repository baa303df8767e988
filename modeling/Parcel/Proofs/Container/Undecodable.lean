import Parcel.Proofs.Container.Exchange

/-!
# Values that cannot be decoded

A text can be taken over with its values deferred although they cannot be decoded. That comes out
when the values are needed, and it comes out again each time. What the container does then does not
depend on what has been done before: an operation that can report the error reports it, one that
cannot answers as if there were no values, and the header is read and changed as ever. The values
stay deferred in the same text until they are dropped or until another input is taken over.

## Main definitions

* `Container.Undecodable` — the values wait in a text that cannot be decoded
* `Request.unread?`, `Session.Act.unread?` — what the answer is then
* `Request.relabel`, `Session.Act.relabel` — what becomes of the header
* `Session.Retaining` — a run that neither drops the values nor takes an input over

## Main results

* `Container.Undecodable.visit_eq` — an operation on the store gives the error
* `Container.Undecodable.answer_eq`, `Container.Undecodable.perform` — one request
* `Session.unread_step`, `Session.undecodable_step` — one act
* `Session.undecodable_after` — a run
* `Session.contained_parseLazy` — deferring values that cannot be decoded
-/

namespace Parcel

/-! ## What is answered without values -/

namespace Request

/-- A request that neither drops the values nor takes an input over. -/
def Retains : Request → Prop
  | .clear | .deserialize _ | .deserializeAs .. | .parseLazy _ => False
  | _ => True

/-- What a request that takes no input over makes of `header`. -/
def relabel (r : Request) (header : Header) : Header :=
  match r with
  | .setHeader other => other
  | .setFields fields => header.setAll fields
  | .swapHeader => header.swap
  | _ => header

/-- The answer of a container whose values wait in `text` and cannot be decoded, by the error `e`. A
request that offers an input has none: its answer is up to the input. -/
def unread? (header : Header) (text : RawText) (e : Error) : Request → Option Answer
  | .set n => some (.failed (if n.name = "" then .emptyKey else e))
  | .setAll ns => some (.failed (if Container.allNamed ns then e else .emptyKey))
  | .bulkInsert ns => some (
    if !Container.allNamed ns then .failed .emptyKey else if ns.isEmpty then .done else .failed e)
  | .remove _ | .get .. | .snapshot | .serialize _ | .copy _ => some (.failed e)
  | .serializeText f => some (.failed (
    if f.isTextual then e else .invalidFormat (f.name ++ " output is binary, not a string")))
  | .getValue _ => some (.found none)
  | .contains _ | .updateIf _ => some (.flag false)
  | .size | .removeBatch _ => some (.count 0)
  | .keys => some (.names [])
  | .values => some (.values [])
  | .getBatch names => some (.foundEach (names.map fun _ => none))
  | .getBatchMap _ => some (.foundByName ∅)
  | .containsBatch names => some (.flags (names.map fun _ => false))
  | .updateBatchIf us => some (.flags (us.map fun _ => false))
  | .header => some (.header header)
  | .setHeader _ | .setFields _ | .swapHeader | .clear => some .done
  | .ensureIndex => some (.ofExcept .flag (text.entries.map fun _ => true))
  | .view key => some (.view (text.view? key))
  | .views => some (.views text.views)
  | .deserialize _ | .deserializeAs .. | .parseLazy _ => none

end Request

namespace Session

/-- An act that neither drops the values nor takes an input over. -/
def Act.Retains : Act → Prop
  | .ask r => r.Retains
  | .takeValidated .. | .load _ => False
  | _ => True

/-- What an act that takes no input over makes of `header`. -/
def Act.relabel (a : Act) (header : Header) : Header :=
  match a with
  | .ask r => r.relabel header
  | .configure config =>
    { header with messageType := config.messageType, version := config.version }
  | _ => header

/-- The reply of a container whose values wait in `text` and cannot be decoded, where it tells
something about the container. A schema is applied as if there were no values. -/
def Act.unread? (header : Header) (text : RawText) (e : Error) : Act → Option Reply
  | .ask r => (r.unread? header text e).map .answer
  | .keepsText => some (.flag true)
  | .validateAll schema => some (.violations (schema.validate ⟨header, []⟩))
  | .validate schema => some (.violation (schema.validate ⟨header, []⟩).head?)
  | .save .. => some (.answer (.failed e))
  | _ => none

variable {Client : Type}

/-- No act of a run drops the values, or takes an input over: what is offered is refused. -/
def Retaining [Memory] : List (Client × Act) → Session → Prop
  | [], _ => True
  | (_, a) :: run, s => (a.Retains ∨ a.Refused (s.step a).1) ∧ Retaining run (s.step a).2

/-- What a run that takes no input over makes of `header`. -/
def relabel (run : List (Client × Act)) (header : Header) : Header :=
  run.foldl (fun header step => step.2.relabel header) header

end Session

/-! ## Containers -/

namespace Container

/-- The values wait in the text `b`, which cannot be decoded for the reason `e`. -/
structure Undecodable (b : Bytes) (e : Error) (c : Container) : Prop where
  waiting : c.isMaterialized = false
  text : c.raw?.map (·.bytes) = some b
  contents : c.contents = .error e

variable {b : Bytes} {e : Error} {c c' : Container} {α : Type}

theorem Undecodable.exists_deferred (undecodable : c.Undecodable b e) :
    ∃ raw, c.content = .deferred raw ∧ raw.bytes = b ∧ raw.values = .error e := by
  obtain ⟨header, policy, content, config⟩ := c
  cases content with
  | held store raw => cases undecodable.waiting
  | deferred raw => exact ⟨raw, rfl, Option.some.inj undecodable.text, undecodable.contents⟩

/-- `parseLazy` on a text that cannot be decoded leaves an `Undecodable` container with the header
of that text. -/
theorem undecodable_parseLazy (taken : (c.parseLazy b).1 = .ok ())
    (fails : Codec.decode .text b = .error e) :
    (c.parseLazy b).2.Undecodable b e ∧ Delimited.scanHeader b = .ok (c.parseLazy b).2.header := by
  obtain ⟨header, headed, deferred⟩ : ∃ header, Delimited.scanHeader b = .ok header ∧
      (c.parseLazy b).2 = { c with header, content := .deferred (.of b) } := by
    unfold parseLazy at taken ⊢
    cases small : c.checkSize b with
    | error e' =>
      rw [small] at taken
      cases taken
    | ok u =>
      rw [small] at taken
      dsimp only at taken ⊢
      split at taken
      · cases taken
      · next detected =>
        rw [if_neg detected]
        cases headed : Delimited.scanHeader b with
        | error fault =>
          rw [headed] at taken
          cases taken
        | ok header => exact ⟨header, rfl, rfl⟩
  have refused : (RawText.of b).values = .error e := by
    rw [RawText.values_eq, RawText.of, fails]
    rfl
  rw [deferred]
  exact ⟨⟨rfl, rfl, refused⟩, headed⟩

/-- Nothing is decoded by looking. -/
theorem Undecodable.kept (undecodable : c.Undecodable b e) (kept : c.Kept c') :
    c'.Undecodable b e := by
  refine ⟨?_, kept.raw.trans undecodable.text, kept.contents.trans undecodable.contents⟩
  obtain ⟨raw, deferred, -, failed⟩ := undecodable.exists_deferred
  have settles := kept.settles
  rw [deferred] at settles
  unfold isMaterialized
  generalize c'.content = content at settles
  cases settles with
  | same => rfl
  | scanned raw => rfl
  | decoded read =>
    rw [read] at failed
    cases failed

theorem Undecodable.labelled (undecodable : c.Undecodable b e) (header : Header)
    (config : Config) : Undecodable b e { c with header, config } :=
  ⟨undecodable.waiting, undecodable.text, undecodable.contents⟩

/-- The store is not reached: every `visit` ends in `e`. -/
theorem Undecodable.visit_eq (undecodable : c.Undecodable b e)
    (f : Store → Except Error α × Option Store) : c.visit f = (.error e, c.access.2) :=
  visit_eq_of_error (access_eq_error undecodable.contents) f

theorem Undecodable.kept_visit (undecodable : c.Undecodable b e)
    (f : Store → Except Error α × Option Store) : c.Kept (c.visit f).2 := by
  rw [undecodable.visit_eq]
  exact kept_access c

theorem Undecodable.query_eq (undecodable : c.Undecodable b e) (f : Store → Except Error α) :
    c.query f = (.error e, c.access.2) :=
  undecodable.visit_eq _

theorem Undecodable.queryOr_eq (undecodable : c.Undecodable b e) (absent : α) (f : Store → α) :
    c.queryOr absent f = (absent, c.access.2) := by
  rw [queryOr, undecodable.query_eq]
  rfl

/-- A name that is missing is found before the values are needed, and otherwise `set` ends in `e`.
-/
theorem Undecodable.set_eq (undecodable : c.Undecodable b e) (n : Named) :
    (c.set n).1 = .error (if n.name = "" then .emptyKey else e) := by
  unfold set
  split
  · rfl
  · rw [undecodable.visit_eq]

theorem Undecodable.setAll_eq (undecodable : c.Undecodable b e) (values : List Named) :
    (c.setAll values).1 = .error (if allNamed values then e else .emptyKey) := by
  unfold setAll
  cases allNamed values with
  | false => rfl
  | true =>
    rw [if_neg (by decide), undecodable.visit_eq]
    rfl

/-- The values are not needed for appending nothing. -/
theorem Undecodable.bulkInsert_eq [Memory] (undecodable : c.Undecodable b e) (values : List Named) :
    (c.bulkInsert values).1 =
        (if !allNamed values then .error .emptyKey
          else if values.isEmpty then .ok () else .error e) ∧
      c.Kept (c.bulkInsert values).2 := by
  unfold bulkInsert
  split
  · exact ⟨rfl, .refl c⟩
  · split
    · exact ⟨rfl, .refl c⟩
    · rw [undecodable.visit_eq]
      exact ⟨rfl, kept_access c⟩

/-- No buffer is taken for what cannot be written. -/
theorem Undecodable.serialize_eq [Memory] (undecodable : c.Undecodable b e) (f : Format)
    (pool : Pool) :
    c.serialize f pool = (.error e, c.access.2, pool) := by
  rw [serialize, snapshot, undecodable.query_eq]

theorem Undecodable.serializeText_eq [Memory] (undecodable : c.Undecodable b e) (f : Format)
    (pool : Pool) :
    (c.serializeText f pool).1 = .error (
      if f.isTextual then e else .invalidFormat (f.name ++ " output is binary, not a string")) := by
  unfold serializeText
  cases f.isTextual with
  | false => rfl
  | true =>
    rw [if_neg (by decide), undecodable.serialize_eq]
    rfl

theorem Undecodable.copy_eq [Memory] (undecodable : c.Undecodable b e) (withValues : Bool)
    (pool : Pool) :
    c.copy withValues pool = (.error e, c.access.2, pool) := by
  rw [copy, snapshot, undecodable.query_eq]

/-- A schema is applied to the header alone, as if there were no values. -/
theorem Undecodable.validateAll_eq (undecodable : c.Undecodable b e) (schema : Schema) :
    c.validateAll schema = (schema.validate ⟨c.header, []⟩, c.access.2) := by
  have header : c.access.2.header = c.header := (kept_access c).header
  rw [validateAll, snapshot, undecodable.query_eq]
  exact congrArg (fun h => (schema.validate ⟨h, []⟩, c.access.2)) header

/-! ## Requests -/

/-- The answer to a request is known from the header, the text and the error `e`, as `unread?` has
it. -/
theorem Undecodable.answer_eq [Memory] (undecodable : c.Undecodable b e) {r : Request}
    {answer : Answer}
    (known : r.unread? c.header (.of b) e = some answer) (pool : Pool) :
    (r.perform c pool).1 = answer := by
  obtain ⟨raw, deferred, same, -⟩ := undecodable.exists_deferred
  have text : c.raw? = some raw := by
    rw [raw?, deferred]
  replace same : raw.bytes = (RawText.of b).bytes := same
  cases r with
  -- these need the values, and fail with `e` where nothing else is wrong
  | set n =>
    cases known
    exact congrArg Answer.ofUnit (undecodable.set_eq n)
  | setAll values =>
    cases known
    exact congrArg Answer.ofUnit (undecodable.setAll_eq values)
  | bulkInsert values =>
    cases known
    refine (congrArg Answer.ofUnit (undecodable.bulkInsert_eq values).1).trans ?_
    rw [apply_ite Answer.ofUnit, apply_ite Answer.ofUnit]
    rfl
  | serialize f =>
    cases known
    exact congrArg (fun r => Answer.ofExcept .encoded r.1) (undecodable.serialize_eq f pool)
  | serializeText f =>
    cases known
    exact congrArg (Answer.ofExcept .encodedText) (undecodable.serializeText_eq f pool)
  | copy withValues =>
    cases known
    exact congrArg (fun r => Answer.ofExcept .container r.1) (undecodable.copy_eq withValues pool)
  -- what these answer without values is up to `visit`, `query` and `queryOr`
  | remove | removeBatch | updateIf | updateBatchIf =>
    cases known
    simp only [Request.perform, Request.keeping, remove, removeBatch, updateIf, updateBatchIf,
      undecodable.visit_eq]
    rfl
  | get | snapshot =>
    cases known
    simp only [Request.perform, Request.keeping, get, snapshot, undecodable.query_eq]
    rfl
  | getValue | contains | size | keys | values | getBatch | getBatchMap | containsBatch =>
    cases known
    simp only [Request.perform, Request.keeping, getValue, contains, size, keys, values, getBatch,
      getBatchMap, containsBatch, undecodable.queryOr_eq]
  -- these look at the kept text alone, and its bytes are those of `b`
  | ensureIndex =>
    cases known
    simp only [Request.perform, Request.keeping, ensureIndex, deferred, RawText.entries_congr same]
  | view key =>
    cases known
    simp only [Request.perform, Request.keeping, view?, text]
    exact congrArg Answer.view (RawText.view?_congr key same)
  | views =>
    cases known
    simp only [Request.perform, Request.keeping, views, text]
    exact congrArg Answer.views (RawText.views_congr same)
  | header | setHeader | setFields | swapHeader | clear =>
    cases known
    rfl
  -- an input is offered, and `unread?` has no answer
  | deserialize | deserializeAs | parseLazy => cases known

/-- A request that `Retains` or is `Idle` leaves the values where they are, and does with the header
what it does with any. -/
theorem Undecodable.perform [Memory] (undecodable : c.Undecodable b e) {r : Request} {pool : Pool}
    (allowed : r.Retains ∨ r.Idle (r.perform c pool).1) :
    (r.perform c pool).2.1.Undecodable b e ∧
      (r.perform c pool).2.1.header = r.relabel c.header := by
  have looked {c' : Container} (kept : c.Kept c') : c'.Undecodable b e ∧ c'.header = c.header :=
    ⟨undecodable.kept kept, kept.header⟩
  have failed {answer : Answer} (known : r.unread? c.header (.of b) e = some answer)
      (idle : r.Idle answer) : c.Kept (r.perform c pool).2.1 :=
    kept_of_answer (undecodable.answer_eq known pool) idle
  cases r with
  | setHeader header => exact ⟨undecodable.labelled header c.config, rfl⟩
  | setFields fields => exact ⟨undecodable.labelled (c.header.setAll fields) c.config, rfl⟩
  | swapHeader => exact ⟨undecodable.labelled c.header.swap c.config, rfl⟩
  | header => exact ⟨undecodable, rfl⟩
  | clear | deserialize | deserializeAs | parseLazy =>
    exact looked (kept_of_answer rfl (allowed.resolve_left id))
  | bulkInsert values => exact looked (undecodable.bulkInsert_eq values).2
  | ensureIndex | view | views => exact looked (kept_ensureIndex c)
  | set | setAll | serializeText => exact looked (failed rfl (.failed _ _))
  | serialize f => exact looked (kept_serialize f c pool)
  | copy withValues => exact looked (kept_copy withValues c pool)
  | remove | removeBatch | updateIf | updateBatchIf => exact looked (undecodable.kept_visit _)
  -- all other requests only ask
  | _ => exact looked (kept_query _ c)

end Container

/-! ## Acts and runs -/

namespace Session

open Container (Undecodable)

variable {Client : Type} {b : Bytes} {e : Error} {s : Session}

/-- The reply to an act is known from the header, the text and the error `e`, as `unread?` has it.
-/
theorem unread_step [Memory] (undecodable : s.container.Undecodable b e) {a : Act} {reply : Reply}
    (known : a.unread? s.container.header (.of b) e = some reply) : (s.step a).1 = reply := by
  cases a with
  | ask r =>
    obtain ⟨answer, answered, rfl⟩ := Option.map_eq_some_iff.1 known
    exact congrArg Reply.answer (undecodable.answer_eq answered s.pool)
  | keepsText =>
    cases known
    obtain ⟨raw, kept, -⟩ := Option.map_eq_some_iff.1 undecodable.text
    simp only [step, kept, Option.isSome_some]
  | validateAll schema =>
    cases known
    simp only [step, undecodable.validateAll_eq]
  | validate schema =>
    cases known
    simp only [step, Container.validate, undecodable.validateAll_eq]
  | save file f =>
    cases known
    have written : (s.ask (.serialize f)).1 = .failed e :=
      undecodable.answer_eq (r := .serialize f) rfl s.pool
    simp only [step, save]
    generalize s.ask (.serialize f) = r at written
    obtain ⟨answer, t⟩ := r
    cases written
    rfl
  | configure | settings | usePool | resetPool | poolStats | takeValidated | load | useDirectory =>
    cases known

/-- An act that `Retains` or is `Refused` leaves the values where they are, and does with the header
what it does with any. -/
theorem undecodable_step [Memory] (undecodable : s.container.Undecodable b e) {a : Act}
    (allowed : a.Retains ∨ a.Refused (s.step a).1) :
    (s.step a).2.container.Undecodable b e ∧
      (s.step a).2.container.header = a.relabel s.container.header := by
  have looked {c : Container} (kept : s.container.Kept c) :
      c.Undecodable b e ∧ c.header = s.container.header :=
    ⟨undecodable.kept kept, kept.header⟩
  cases a with
  | ask r => exact undecodable.perform (allowed.imp id fun refused => refused.idle)
  | configure config => exact ⟨undecodable.labelled _ config, rfl⟩
  | settings | usePool | resetPool | poolStats | keepsText | useDirectory =>
    exact ⟨undecodable, rfl⟩
  | validateAll schema | validate schema => exact looked (kept_validateAll schema s)
  | save file f => exact looked (kept_save file f s)
  | takeValidated | load => exact looked (kept_of_refused (allowed.resolve_left id))

/-- So does a run of acts that is `Retaining`. -/
theorem undecodable_after [Memory] {run : List (Client × Act)}
    (undecodable : s.container.Undecodable b e)
    (retaining : Retaining run s) :
    (after run s).container.Undecodable b e ∧
      (after run s).container.header = relabel run s.container.header := by
  induction run generalizing s with
  | nil => exact ⟨undecodable, rfl⟩
  | cons step run ih =>
    obtain ⟨client, a⟩ := step
    obtain ⟨allowed, rest⟩ := retaining
    obtain ⟨here, header⟩ := undecodable_step undecodable allowed
    obtain ⟨there, headers⟩ := ih here rest
    refine ⟨there, headers.trans ?_⟩
    rw [header]
    rfl

/-- Values that cannot be decoded are contained. However often they are asked for, every reply is
the one that `unread?` makes of the header, the text and the error; the header goes on by itself;
the text stays, and its values stay deferred. Dropping the values ends this: nothing is left but the
header. -/
theorem contained_parseLazy [Memory] {run : List (Client × Act)}
    (taken : (s.container.parseLazy b).1 = .ok ()) (fails : Codec.decode .text b = .error e)
    (retaining : Retaining run (s.step (.ask (.parseLazy b))).2) :
    let now := after run (s.step (.ask (.parseLazy b))).2
    (∀ a reply, a.unread? now.container.header (.of b) e = some reply → (now.step a).1 = reply) ∧
      (∃ header, Delimited.scanHeader b = .ok header ∧
        now.container.header = relabel run header) ∧
      now.container.isMaterialized = false ∧
      now.container.raw?.map (·.bytes) = some b ∧
      let cleared := (now.step (.ask .clear)).2.container
      cleared.isMaterialized = true ∧ cleared.contents = .ok [] ∧ cleared.raw? = none ∧
        cleared.header = now.container.header := by
  intro now
  obtain ⟨deferred, headed⟩ := Container.undecodable_parseLazy taken fails
  obtain ⟨undecodable, header⟩ := undecodable_after (s := (s.step (.ask (.parseLazy b))).2)
    deferred retaining
  refine ⟨fun a reply => unread_step undecodable, ⟨_, headed, header⟩, undecodable.waiting,
    undecodable.text, rfl, ?_, rfl, rfl⟩
  exact congrArg Except.ok (Store.toList_ofList _ [])

/-- A text whose only value is not the integer that it says it is. -/
def brokenText : Bytes :=
  Utf8.encode "@header=\x7b\x7b[6,1.0];\x7d\x7d;@data=\x7b\x7b[n,4,abc];\x7d\x7d;"

/-- A new container. -/
def vacant : Session := ⟨.new .linear, .direct 0, .empty "."⟩

/-- What two clients may do with the values of that text. -/
def attemptedUse : List (Bool × Act) :=
  [(true, .ask (.set ⟨"n", .string "1"⟩)), (false, .ask (.setFields [(.messageType, "order")])),
    (true, .ask (.deserialize [0])), (false, .ask (.removeBatch ["n"]))]

open scoped Memory.Plenty

theorem contained_parseLazy_brokenText :
    let e := Error.deserializationFailed "invalid int literal 'abc'"
    let now := after attemptedUse (vacant.step (.ask (.parseLazy brokenText))).2
    (vacant.container.parseLazy brokenText).1 = .ok () ∧ Codec.decode .text brokenText = .error e ∧
      Retaining attemptedUse (vacant.step (.ask (.parseLazy brokenText))).2 ∧
      (now.step (.ask (.remove "n"))).1 = .answer (.failed e) ∧
      (now.step (.ask .keys)).1 = .answer (.names []) ∧
      now.container.header.messageType = "order" ∧
      now.container.isMaterialized = false ∧
      (now.step (.ask .clear)).2.container.contents = .ok [] := by
  intro e now
  have taken : (vacant.container.parseLazy brokenText).1 = .ok () := by decide +kernel
  have fails : Codec.decode .text brokenText = .error e := by
    have refused : (Codec.decode .text brokenText).map (fun _ => ()) = .error e := by
      decide +kernel
    generalize Codec.decode .text brokenText = read at refused
    cases read with
    | ok d => cases refused
    | error e' => exact congrArg Except.error (Except.error.inj refused)
  have retaining : Retaining attemptedUse (vacant.step (.ask (.parseLazy brokenText))).2 :=
    ⟨.inl trivial, .inl trivial, .inr (.request (.failed _ _)), .inl trivial, trivial⟩
  obtain ⟨replies, ⟨header, headed, relabelled⟩, waiting, -, -, dropped, -⟩ :=
    contained_parseLazy taken fails retaining
  refine ⟨taken, fails, retaining, replies _ _ rfl, replies _ _ rfl, ?_, waiting, dropped⟩
  rw [relabelled]
  rfl

end Session

end Parcel
