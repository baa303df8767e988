import Parcel.Proofs.Container.Contents
import Parcel.Proofs.Store.Update

/-!
# No update is lost

Several clients share a container. Each operation of one of them is atomic, so what they do together
is a run of acts in some order, and every order is a run. As long as the value of a name is changed
by conditional updates only, the updates that are made form a chain: each of them expected what the
one before it had put, and the last one has put what is there in the end.

It does not matter what else happens in the meantime. Values of other names come and go and move the
value about, deferred values are decoded, the name may have further values behind the first one; the
update and the test before it find the same value.

## Main definitions

* `Session.Act.Spares`, `Session.Act.Refused` — acts that change a value by conditional updates only
* `Session.after`, `Session.attempts` — what a run leads to, and the updates attempted in it
* `Container.stored` — the first value of a name

## Main results

* `Container.Shows.perform` — one request
* `Session.shows_step` — one act
* `Session.sequential_attempts` — a run
* `Session.attempts_chain` — the updates that are made form a chain
-/

namespace Parcel

variable {Client : Type} {key : String} {v : Option Value}

/-! ## What may happen to a value -/

/-- A request that changes the first value of a name by conditional updates only. -/
def Request.Spares (key : String) : Request → Prop
  | .set n => n.name ≠ key
  | .setAll ns => ∀ n ∈ ns, n.name ≠ key
  | .bulkInsert ns => ∀ n ∈ ns, n.name ≠ key
  | .remove name => name ≠ key
  | .removeBatch names => key ∉ names
  | .clear | .deserialize _ | .deserializeAs .. | .parseLazy _ => False
  | _ => True

/-- The attempts at the value of `key` in a request that was answered. -/
def Request.attempts (key : String) (client : Client) (r : Request) (answer : Answer) :
    List (Attempt Client) :=
  match r, answer with
  | .updateIf u, .flag made => Store.attempts key client [u] [made]
  | .updateBatchIf us, .flags made => Store.attempts key client us made
  | _, _ => []

namespace Session

/-- An act that changes the first value of a name by conditional updates only. -/
def Act.Spares (key : String) : Act → Prop
  | .ask r => r.Spares key
  | .takeValidated .. | .load _ => False
  | _ => True

/-- An act that was answered with a refusal, or with having had no effect. -/
inductive Act.Refused : Act → Reply → Prop where
  /-- A request without effect. -/
  | request {r : Request} {answer : Answer} (idle : r.Idle answer) :
    Refused (.ask r) (.answer answer)
  /-- An input that could not be decoded. -/
  | input (schema : Schema) (s : Bytes) (e : Error) :
    Refused (.takeValidated schema s) (.admission (.error (.undecodable e)))
  /-- A file that could not be read or decoded. -/
  | file (name : String) (e : Error) : Refused (.load name) (.answer (.failed e))

/-- The attempts at the value of `key` in an act that was replied to. -/
def Act.attempts (key : String) (client : Client) (a : Act) (reply : Reply) :
    List (Attempt Client) :=
  match a, reply with
  | .ask r, .answer answer => r.attempts key client answer
  | _, _ => []

/-- The session after the acts of several clients. -/
def after [Memory] : List (Client × Act) → Session → Session
  | [], s => s
  | (_, a) :: run, s => after run (s.step a).2

/-- The attempts at the value of a name by several clients. -/
def attempts [Memory] (key : String) : List (Client × Act) → Session → List (Attempt Client)
  | [], _ => []
  | (client, a) :: run, s => a.attempts key client (s.step a).1 ++ attempts key run (s.step a).2

/-- The value of a name is changed by conditional updates only, whoever does something. -/
def Conditional [Memory] (key : String) : List (Client × Act) → Session → Prop
  | [], _ => True
  | (_, a) :: run, s =>
    (a.Spares key ∨ a.Refused (s.step a).1) ∧ Conditional key run (s.step a).2

end Session

/-! ## Containers -/

namespace Container

/-- The first value of the name `key`. -/
def stored (key : String) (c : Container) : Option Value := (c.getValue key).1.map (·.value)

/-- A container whose values can be decoded, and whose first value of the name `key` is `v`. -/
structure Shows (key : String) (v : Option Value) (c : Container) : Prop where
  faithful : c.Faithful
  first : c.contents.map (Named.first? key) = .ok v

variable {c c' : Container} {α : Type}

theorem Shows.stored_eq (shows : c.Shows key v) : c.stored key = v := by
  obtain ⟨values, held, first⟩ := Except.exists_of_map_eq_ok shows.first
  rw [stored, getValue_eq shows.faithful held]
  exact first

theorem Shows.kept {taken : Format → Document → Prop} (shows : c.Shows key v) (kept : c.Kept c')
    (changes : c.Changes taken c') : c'.Shows key v :=
  ⟨shows.faithful.changes changes, by rw [kept.contents, shows.first]⟩

/-- An operation `f` on the store, by what it does to a store that shows the value `v` under `key`.
-/
theorem Shows.visit {f : Store → Except Error α × Option Store} (shows : c.Shows key v)
    (P : Except Error α → Option Value → Prop)
    (left : ∀ store : Store, store.Shows key v →
      ∃ w, ((f store).2.getD store).Shows key w ∧ P (f store).1 w) :
    ∃ w, (c.visit f).2.Shows key w ∧ P (c.visit f).1 w := by
  obtain ⟨values, held, first⟩ := Except.exists_of_map_eq_ok shows.first
  obtain ⟨store, same, exact, visited⟩ := exists_visit_eq shows.faithful held f
  have shown : store.Shows key v := ⟨exact, by rw [same, first]⟩
  obtain ⟨w, after, answered⟩ := left store shown
  refine ⟨w, ?_, by rw [visited]; exact answered⟩
  rw [visited]
  cases outcome : (f store).2 with
  | none =>
    -- the store that was reached is left as it is
    rw [outcome] at after
    obtain rfl : v = w := shown.first.symm.trans after.first
    have looked : c.Changes (fun _ _ => False) c.access.2 := Change.access.changes
    exact shows.kept (kept_access c) looked
  | some made =>
    rw [outcome] at after
    exact ⟨⟨after.exact, nofun⟩, congrArg Except.ok after.first⟩

/-- An operation `f` on the store that leaves the value under `key` as it is. -/
theorem Shows.visit_same {f : Store → Except Error α × Option Store} (shows : c.Shows key v)
    (same : ∀ store : Store, store.Shows key v → ((f store).2.getD store).Shows key v) :
    (c.visit f).2.Shows key v := by
  obtain ⟨w, after, rfl⟩ := shows.visit (fun _ w => w = v) fun store shown =>
    ⟨v, same store shown, rfl⟩
  exact after

theorem Shows.set (shows : c.Shows key v) {n : Named} (other : n.name ≠ key) :
    (c.set n).2.Shows key v := by
  unfold Container.set
  split
  · exact shows
  · refine shows.visit_same ?_
    intro store shown
    exact shown.set other

theorem Shows.setAll (shows : c.Shows key v) {values : List Named}
    (other : ∀ n ∈ values, n.name ≠ key) : (c.setAll values).2.Shows key v := by
  unfold Container.setAll
  split
  · exact shows
  · refine shows.visit_same ?_
    intro store shown
    dsimp only
    split
    · exact shown
    · exact shown.setAll other

theorem Shows.bulkInsert [Memory] (shows : c.Shows key v) {values : List Named}
    (other : ∀ n ∈ values, n.name ≠ key) : (c.bulkInsert values).2.Shows key v := by
  unfold Container.bulkInsert
  split
  · exact shows
  · split
    · exact shows
    · refine shows.visit_same ?_
      intro store shown
      cases Store.reserve values.length with
      | error e => exact shown
      | ok u => exact shown.pushAll other

theorem Shows.remove (shows : c.Shows key v) {removed : String} (other : removed ≠ key) :
    (c.remove removed).2.Shows key v := by
  refine shows.visit_same ?_
  intro store shown
  have without := shown.remove other
  generalize store.remove removed = outcome at without
  obtain ⟨rest, found⟩ := outcome
  cases found with
  | false => exact shown
  | true => exact without

theorem Shows.removeBatch (shows : c.Shows key v) {keys : List String} (other : key ∉ keys) :
    (c.removeBatch keys).2.Shows key v := by
  refine shows.visit_same ?_
  intro store shown
  dsimp only
  split
  · exact shown
  · exact shown.removeAll other

/-! ## Conditional updates -/

/-- An update is an attempt at the value under `key` if it is one of that name. -/
theorem Shows.updateIf (shows : c.Shows key v) (client : Client) (u : Update) :
    ∃ w, (c.updateIf u).2.Shows key w ∧
      Sequential v (Store.attempts key client [u] [(c.updateIf u).1]) w := by
  refine shows.visit (fun answer w =>
    Sequential v (Store.attempts key client [u] [answer.toOption.getD false]) w) ?_
  intro store shown
  obtain ⟨w, after, attempted⟩ := shown.updateIf? client u
  refine ⟨w, ?_⟩
  cases updated : store.updateIf? u with
  | none =>
    rw [updated] at after attempted
    exact ⟨after, attempted⟩
  | some t =>
    rw [updated] at after attempted
    exact ⟨after, attempted⟩

/-- Several updates `us` are the attempts of those of the name `key`, one after the other. -/
theorem Shows.updateBatchIf (shows : c.Shows key v) (client : Client) (us : List Update) :
    ∃ w, (c.updateBatchIf us).2.Shows key w ∧
      Sequential v (Store.attempts key client us (c.updateBatchIf us).1) w := by
  refine shows.visit (fun answer w => Sequential v
    (Store.attempts key client us (answer.toOption.getD (us.map fun _ => false))) w) ?_
  intro store shown
  obtain ⟨w, after, attempted⟩ := shown.updateAll client us
  refine ⟨w, ?_, attempted⟩
  dsimp only
  split
  · exact after
  · -- the store is given up only when no update was made in it
    next idle =>
      rw [Store.eq_of_unmade attempted (by simpa using idle)]
      exact shown

/-! ## Requests -/

/-- Whatever else a request does, it makes its `attempts` at the value under `key`. -/
theorem Shows.perform [Memory] (shows : c.Shows key v) (client : Client) {r : Request} {pool : Pool}
    (allowed : r.Spares key ∨ r.Idle (r.perform c pool).1) :
    ∃ w, (r.perform c pool).2.1.Shows key w ∧
      Sequential v (r.attempts key client (r.perform c pool).1) w := by
  have changes := changes_perform r c pool
  have looked (kept : c.Kept (r.perform c pool).2.1) : (r.perform c pool).2.1.Shows key v :=
    shows.kept kept changes
  -- a request that could change the value otherwise spares it, or has had no effect at all
  have spared (unattempted : r.attempts key client (r.perform c pool).1 = [])
      (other : r.Spares key → (r.perform c pool).2.1.Shows key v) :
      ∃ w, (r.perform c pool).2.1.Shows key w ∧
        Sequential v (r.attempts key client (r.perform c pool).1) w := by
    rw [unattempted]
    refine ⟨v, ?_, .nil v⟩
    rcases allowed with spares | idle
    · exact other spares
    · exact looked (kept_of_answer rfl idle)
  cases r with
  | updateIf u => exact shows.updateIf client u
  | updateBatchIf us => exact shows.updateBatchIf client us
  | set n => exact spared rfl fun other => shows.set other
  | setAll values => exact spared rfl fun other => shows.setAll other
  | bulkInsert values => exact spared rfl fun other => shows.bulkInsert other
  | remove removed => exact spared rfl fun other => shows.remove other
  | removeBatch names => exact spared rfl fun other => shows.removeBatch other
  | clear | deserialize | deserializeAs | parseLazy => exact spared rfl False.elim
  | header | setHeader | setFields | swapHeader =>
    exact ⟨v, ⟨shows.faithful, shows.first⟩, .nil v⟩
  | serialize f => exact ⟨v, looked (kept_serialize f c pool), .nil v⟩
  | serializeText f => exact ⟨v, looked (kept_serializeText f c pool), .nil v⟩
  | copy withValues => exact ⟨v, looked (kept_copy withValues c pool), .nil v⟩
  | ensureIndex | view | views => exact ⟨v, looked (kept_ensureIndex c), .nil v⟩
  -- all other requests only ask
  | _ => exact ⟨v, looked (kept_query _ c), .nil v⟩

end Container

/-! ## Runs -/

namespace Session

open Container (Shows)

variable {s : Session}

/-- A file that could not be taken over leaves the container as it was. -/
theorem kept_load [Memory] {name : String} {e : Error} (failed : (s.load name).1 = .failed e) :
    s.container.Kept (s.load name).2.container := by
  unfold Session.load at failed ⊢
  split at failed
  · next content _ =>
    have answered : ((Request.deserialize content).perform s.container s.pool).1 = .failed e :=
      failed
    exact Container.kept_of_failed answered
  · exact Container.Kept.refl s.container

/-- So does an input that could not be decoded. -/
theorem kept_takeValidated {schema : Schema} {input : Bytes} {e : Error}
    (failed : (s.container.deserializeValidated schema input).1 = .error (.undecodable e)) :
    s.container.Kept (s.container.deserializeValidated schema input).2 := by
  have kept := fun e => Container.kept_deserialize (c := s.container) (s := input) (e := e)
  unfold Container.deserializeValidated at failed ⊢
  generalize s.container.deserialize input = r at failed kept
  obtain ⟨answer, c⟩ := r
  cases answer with
  | error e' => exact kept e' rfl
  | ok done =>
    -- what was decoded is admitted, or rejected for its violations
    dsimp only at failed
    split at failed <;> cases failed

/-- Saving looks at the values, whether or not they can be written. -/
theorem kept_save [Memory] (name : String) (f : Format) (s : Session) :
    s.container.Kept (s.save name f).2.container := by
  have written : s.container.Kept (s.ask (.serialize f)).2.container :=
    Container.kept_serialize f s.container s.pool
  unfold Session.save
  generalize s.ask (.serialize f) = r at written
  obtain ⟨answer, t⟩ := r
  cases answer <;> exact written

theorem kept_validateAll (schema : Schema) (s : Session) :
    s.container.Kept (s.container.validateAll schema).2 := by
  rw [Container.validateAll_access]
  exact Container.kept_access s.container

/-- A request that is `Refused` as an act is `Idle`. -/
theorem Act.Refused.idle [Memory] {r : Request}
    (refused : (Act.ask r).Refused (s.step (.ask r)).1) :
    r.Idle (r.perform s.container s.pool).1 := by
  generalize reply : (s.step (.ask r)).1 = answer at refused
  cases refused with
  | request idle =>
    cases reply
    exact idle

/-- An act that is `Refused` leaves the container as it was. -/
theorem kept_of_refused [Memory] {a : Act} (refused : a.Refused (s.step a).1) :
    s.container.Kept (s.step a).2.container := by
  generalize reply : (s.step a).1 = answer at refused
  cases refused with
  | request idle => exact Container.kept_of_answer (Reply.answer.inj reply) idle
  | input schema input e => exact kept_takeValidated (Reply.admission.inj reply)
  | file name e => exact kept_load (Reply.answer.inj reply)

/-- One act makes its `attempts` at the value under `key`, and nothing else happens to it. -/
theorem shows_step [Memory] (shows : s.container.Shows key v) (client : Client) {a : Act}
    (allowed : a.Spares key ∨ a.Refused (s.step a).1) :
    ∃ w, (s.step a).2.container.Shows key w ∧
      Sequential v (a.attempts key client (s.step a).1) w := by
  have changes := changes_step a s
  have looked (kept : s.container.Kept (s.step a).2.container) :
      (s.step a).2.container.Shows key v :=
    shows.kept kept changes
  cases a with
  | ask r => exact shows.perform client (allowed.imp id fun refused => refused.idle)
  | configure config => exact ⟨v, ⟨shows.faithful, shows.first⟩, .nil v⟩
  | settings | usePool | resetPool | poolStats | keepsText | useDirectory =>
    exact ⟨v, shows, .nil v⟩
  | validateAll schema | validate schema => exact ⟨v, looked (kept_validateAll schema s), .nil v⟩
  | save file f => exact ⟨v, looked (kept_save file f s), .nil v⟩
  -- an input that is taken over may change any value, so it has been refused
  | takeValidated | load => exact ⟨v, looked (kept_of_refused (allowed.resolve_left id)), .nil v⟩

/-- A run makes its `attempts` at the value under `key`, and nothing else happens to it. -/
theorem sequential_attempts [Memory] {run : List (Client × Act)} (shows : s.container.Shows key v)
    (conditional : Conditional key run s) :
    ∃ w, (after run s).container.Shows key w ∧ Sequential v (attempts key run s) w := by
  induction run generalizing s v with
  | nil => exact ⟨v, shows, .nil v⟩
  | cons step run ih =>
    obtain ⟨client, a⟩ := step
    obtain ⟨allowed, rest⟩ := conditional
    obtain ⟨w, here, first⟩ := shows_step shows client allowed
    obtain ⟨x, there, others⟩ := ih here rest
    exact ⟨x, there, first.append others⟩

/-! ## Parts of a run -/

theorem Conditional.before [Memory] {before rest : List (Client × Act)}
    (conditional : Conditional key (before ++ rest) s) : Conditional key before s := by
  induction before generalizing s with
  | nil => exact trivial
  | cons step before ih => exact ⟨conditional.1, ih conditional.2⟩

/-- What a container shows under `key`, when its values can be decoded, is what is `stored` there.
-/
theorem shows_stored [Memory] {values : List Named} (reachable : s.container.Reachable)
    (decodable : s.container.contents = .ok values) :
    s.container.Shows key (s.container.stored key) := by
  have shows : s.container.Shows key (Named.first? key values) := by
    refine ⟨reachable.faithful, ?_⟩
    rw [decodable]
    rfl
  rw [shows.stored_eq]
  exact shows

/-- Where the value under `key` is changed by conditional updates only, no update is lost. At every
point of the run the value is the one that the last update has put, or the initial one. An update is
made exactly when the value is the expected one at that time. So the first one that is made expected
the initial value, each later one expected what the one before it had put, and of those that expect
the same value at most one is made, unless an update puts that value back. -/
theorem attempts_chain [Memory] {values : List Named} {run : List (Client × Act)}
    (reachable : s.container.Reachable) (decodable : s.container.contents = .ok values)
    (conditional : Conditional key run s) :
    let initial := s.container.stored key
    let log := attempts key run s
    let made := Attempt.successes log
    (∀ before rest, run = before ++ rest → (after before s).container.stored key =
        Update.latest initial (Attempt.successes (attempts key before s))) ∧
      (∀ earlier a later, log = earlier ++ a :: later → (a.made = true ↔
        ∃ x ∈ Update.latest initial (Attempt.successes earlier),
          x.equal a.update.expected = true)) ∧
      (∀ u ∈ made.head?, ∃ x ∈ initial, x.equal u.expected = true) ∧
      (made.IsChain fun u u' => u.value.equal u'.expected = true) ∧
      ∀ e, (∀ u ∈ made, u.value.equal e = false) →
        made.Pairwise fun u u' => ¬(u.expected = e ∧ u'.expected = e) := by
  intro initial log made
  have shows : s.container.Shows key initial := shows_stored reachable decodable
  obtain ⟨w, -, attempted⟩ := sequential_attempts shows conditional
  refine ⟨?_, ?_, attempted.head, attempted.isChain, fun e => attempted.pairwise⟩
  · -- a run that is cut short makes conditional updates only as well
    rintro before rest rfl
    obtain ⟨x, there, first⟩ := sequential_attempts shows conditional.before
    rw [there.stored_eq]
    exact first.eq_latest
  · intro earlier a later split
    have here : Sequential initial (earlier ++ a :: later) w := split ▸ attempted
    exact here.made_iff

/-- A text with a value of another name in front, and two values of one name. -/
def sharedText : Bytes := Utf8.encode "@data=\x7b[a,12,x];[k,12,one];[k,12,spare];\x7d"

open scoped Memory.Plenty

/-- A container that has deferred the values of that text. -/
def shared : Session := ((⟨.new .indexed, .direct 0, .empty "."⟩ : Session).step
  (.ask (.parseLazy sharedText))).2

/-- Two clients race for a value, while one of them removes the value in front of it. -/
def race : List (Bool × Act) :=
  [(true, .ask (.updateIf ⟨"k", .string "one", .string "two"⟩)),
    (false, .ask (.remove "a")),
    (false, .ask (.updateBatchIf [⟨"k", .string "one", .string "three"⟩,
      ⟨"k", .string "two", .string "four"⟩])),
    (true, .ask (.updateIf ⟨"k", .string "one", .string "five"⟩))]

theorem attempts_chain_race :
    shared.container.Reachable ∧ Conditional "k" race shared ∧
      (attempts "k" race shared).map (fun a => (a.client, a.made)) =
        [(true, true), (false, false), (false, true), (true, false)] ∧
      (after race shared).container.stored "k" =
        Update.latest (shared.container.stored "k")
          (Attempt.successes (attempts "k" race shared)) ∧
      (Attempt.successes (attempts "k" race shared)).IsChain fun u u' =>
        u.value.equal u'.expected = true := by
  have reachable : shared.container.Reachable := .step _ (.new .indexed)
  have named : shared.container.contents.map (fun values => values.map (·.name)) =
      .ok ["a", "k", "k"] := by
    decide +kernel
  obtain ⟨values, decodable, -⟩ := Except.exists_of_map_eq_ok named
  have conditional : Conditional "k" race shared := by
    refine ⟨.inl trivial, .inl ?_, .inl trivial, .inl trivial, trivial⟩
    change "a" ≠ "k"
    decide
  obtain ⟨latest, -, -, chain, -⟩ := attempts_chain reachable decodable conditional
  exact ⟨reachable, conditional, by decide +kernel, latest race [] rfl, chain⟩

end Session

end Parcel
