import Parcel.Proofs.Container.Change

/-!
# A request without effect leaves everything as it was

A request that fails, and a conditional or batch operation that reports to have done nothing, may
have looked at the values. Looking decodes what was deferred, and it makes the entries of the kept
text known; header, values and kept text stay what they are. Every such operation is shown to be
over before anything is written: what it reports is only reported where the store is left alone.

## Main definitions

* `Request.Idle` — an answer that reports no effect
* `Container.contents` — the values, decoded if need be
* `Content.Settles` — all that looking may change
* `Container.Kept` — nothing else has changed

## Main results

* `Container.kept_access`, `Container.kept_ensureIndex` — looking at the values, and at the text
* `Container.kept_visit` — an operation on the store that makes no other store
* `Container.kept_of_idle` — a request without effect
-/

namespace Parcel

/-- An answer that reports no effect: a failure, a condition that did not hold, or that there was
nothing to remove. -/
inductive Request.Idle : Request → Answer → Prop where
  /-- The request `r` failed. -/
  | failed (r : Request) (e : Error) : Idle r (.failed e)
  /-- The value was not the one that `u` expected. -/
  | updateIf (u : Update) : Idle (.updateIf u) (.flag false)
  /-- No value was the one that its update of `us` expected. -/
  | updateBatchIf (us : List Update) {made : List Bool} (none : ∀ b ∈ made, b = false) :
    Idle (.updateBatchIf us) (.flags made)
  /-- No name of `keys` had a value. -/
  | removeBatch (keys : List String) : Idle (.removeBatch keys) (.count 0)

/-- All that looking at the values may change: the entries of the kept text become known, and
deferred values that can be decoded are decoded. -/
inductive Content.Settles (policy : Policy) : Content → Content → Prop where
  /-- Nothing changes. -/
  | same (content : Content) : Settles policy content content
  /-- The entries of the text `raw` behind a store become known. -/
  | indexed (store : Store) (raw : RawText) :
    Settles policy (.held store (some raw)) (.held store (some raw.indexed))
  /-- The entries of a text become known whose values stay deferred. -/
  | scanned (raw : RawText) : Settles policy (.deferred raw) (.deferred raw.indexed)
  /-- Deferred values are decoded, by `read`. -/
  | decoded {raw : RawText} {values : List Named} (read : raw.values = .ok values) :
    Settles policy (.deferred raw) (.held (.ofList policy values) (some raw.indexed))

namespace Container

/-- The values in order: those in the store, or those that the deferred text decodes to. -/
def contents (c : Container) : Except Error (List Named) :=
  match c.content with
  | .held store _ => .ok store.toList
  | .deferred raw => raw.values

/-- The same container, except that it may have been looked at. -/
structure Kept (c c' : Container) : Prop where
  header : c'.header = c.header
  policy : c'.policy = c.policy
  config : c'.config = c.config
  contents : c'.contents = c.contents
  raw : c'.raw?.map (·.bytes) = c.raw?.map (·.bytes)
  settles : c.content.Settles c.policy c'.content

variable {c c' : Container} {α : Type}

/-! ## Looking -/

/-- Content that `Settles` shows the same values and the same text. -/
theorem kept_of_settles {content : Content} (settles : c.content.Settles c.policy content) :
    c.Kept { c with content } := by
  obtain ⟨header, policy, before, config⟩ := c
  cases settles with
  | same => exact ⟨rfl, rfl, rfl, rfl, rfl, .same _⟩
  | indexed store raw =>
    refine ⟨rfl, rfl, rfl, rfl, ?_, .indexed store raw⟩
    simp [raw?, RawText.bytes_indexed]
  | scanned raw =>
    refine ⟨rfl, rfl, rfl, ?_, ?_, .scanned raw⟩
    · exact RawText.values_congr (RawText.bytes_indexed raw)
    · simp [raw?, RawText.bytes_indexed]
  | @decoded raw values read =>
    refine ⟨rfl, rfl, rfl, ?_, ?_, .decoded read⟩
    · simp [Container.contents, Store.toList_ofList, read]
    · simp [raw?, RawText.bytes_indexed]

theorem Kept.refl (c : Container) : c.Kept c := kept_of_settles (.same c.content)

/-- Reaching the store decodes what is deferred, and changes nothing else. -/
theorem kept_access (c : Container) : c.Kept c.access.2 := by
  obtain ⟨header, policy, content, config⟩ := c
  cases content with
  | held store raw => exact Kept.refl _
  | deferred raw =>
    have same : raw.indexed.values = raw.values := RawText.values_congr (RawText.bytes_indexed raw)
    cases read : raw.values with
    | error e =>
      simp only [access, same, read]
      exact kept_of_settles (.scanned raw)
    | ok values =>
      simp only [access, same, read]
      exact kept_of_settles (.decoded read)

theorem kept_ensureIndex (c : Container) : c.Kept c.ensureIndex.2 := by
  obtain ⟨header, policy, content, config⟩ := c
  cases content with
  | held store raw =>
    cases raw with
    | none => exact Kept.refl _
    | some raw => exact kept_of_settles (.indexed store raw)
  | deferred raw => exact kept_of_settles (.scanned raw)

/-! ## Operations on the store -/

/-- An operation `f` on the store answers with the error that kept it from the store, or with what
it answers to the store that it reached. -/
theorem visit_cases (f : Store → Except Error α × Option Store) (c : Container) :
    (∃ e, c.visit f = (.error e, c.access.2)) ∨
      ∃ store, c.visit f = ((f store).1, ((f store).2.map c.access.2.holding).getD c.access.2) := by
  unfold visit
  generalize c.access = r
  obtain ⟨answer, d⟩ := r
  cases answer with
  | error e => exact .inl ⟨e, rfl⟩
  | ok store =>
    right
    refine ⟨store, ?_⟩
    dsimp only
    generalize f store = outcome
    obtain ⟨result, made⟩ := outcome
    cases made <;> rfl

/-- An operation `f` whose answer is only given along with no other store has looked at the values.
-/
theorem kept_visit {f : Store → Except Error α × Option Store}
    (unmade : ∀ store, (f store).1 = (c.visit f).1 → (f store).2 = none) :
    c.Kept (c.visit f).2 := by
  obtain ⟨e, refused⟩ | ⟨store, reached⟩ := visit_cases f c
  · rw [refused]
    exact kept_access c
  · have left := unmade store (by rw [reached])
    rw [reached, left]
    exact kept_access c

theorem kept_query (f : Store → Except Error α) (c : Container) : c.Kept (c.query f).2 :=
  kept_visit fun _ _ => rfl

theorem kept_set {n : Named} {e : Error} (failed : (c.set n).1 = .error e) :
    c.Kept (c.set n).2 := by
  unfold set at failed ⊢
  by_cases unnamed : n.name = ""
  · rw [if_pos unnamed]
    exact Kept.refl c
  · rw [if_neg unnamed] at failed ⊢
    -- a store that is reached takes the value, so the store was not reached
    refine kept_visit fun store same => ?_
    rw [failed] at same
    cases same

theorem kept_setAll {values : List Named} {e : Error} (failed : (c.setAll values).1 = .error e) :
    c.Kept (c.setAll values).2 := by
  unfold setAll at failed ⊢
  by_cases unnamed : !allNamed values
  · rw [if_pos unnamed]
    exact Kept.refl c
  · rw [if_neg unnamed] at failed ⊢
    refine kept_visit fun store same => ?_
    rw [failed] at same
    cases same

theorem kept_bulkInsert [Memory] {values : List Named} {e : Error}
    (failed : (c.bulkInsert values).1 = .error e) : c.Kept (c.bulkInsert values).2 := by
  unfold bulkInsert at failed ⊢
  by_cases unnamed : !allNamed values
  · rw [if_pos unnamed]
    exact Kept.refl c
  rw [if_neg unnamed] at failed ⊢
  by_cases nothing : values.isEmpty
  · rw [if_pos nothing]
    exact Kept.refl c
  rw [if_neg nothing] at failed ⊢
  refine kept_visit fun store same => ?_
  rw [failed] at same
  -- memory is reserved before the first value is appended
  cases reserved : Store.reserve values.length with
  | error e' => rfl
  | ok u =>
    simp only [reserved] at same
    cases same

theorem kept_remove {key : String} {e : Error} (failed : (c.remove key).1 = .error e) :
    c.Kept (c.remove key).2 := by
  refine kept_visit fun store same => ?_
  replace same := same.trans failed
  -- the store is replaced exactly when the name was found
  generalize store.remove key = removed at same ⊢
  obtain ⟨rest, found⟩ := removed
  cases found with
  | false => rfl
  | true => cases same

/-- Nothing is removed by `removeBatch` when no name has a value. -/
theorem kept_removeBatch {keys : List String} (none : (c.removeBatch keys).1 = 0) :
    c.Kept (c.removeBatch keys).2 := by
  refine kept_visit fun store same => ?_
  have count : (store.removeAll keys).1 = 0 :=
    (congrArg (fun count => count.toOption.getD 0) same).trans none
  simp [count]

theorem kept_updateIf {u : Update} (unmade : (c.updateIf u).1 = false) :
    c.Kept (c.updateIf u).2 := by
  refine kept_visit fun store same => ?_
  -- a store that could not be reached answers like a condition that did not hold
  have flag := (congrArg (fun made => made.toOption.getD false) same).trans unmade
  cases updated : store.updateIf? u with
  | none => rfl
  | some made =>
    simp only [updated] at flag
    cases flag

/-- Nothing is updated by `updateBatchIf` when no condition holds. -/
theorem kept_updateBatchIf {us : List Update} (unmade : ∀ b ∈ (c.updateBatchIf us).1, b = false) :
    c.Kept (c.updateBatchIf us).2 := by
  refine kept_visit fun store same => ?_
  have flags : (store.updateAll us).1 = (c.updateBatchIf us).1 :=
    congrArg (fun made => made.toOption.getD (us.map fun _ => false)) same
  have idle : (store.updateAll us).1.any id = false := by
    rw [flags]
    simpa using unmade
  simp [idle]

/-! ## Reading and writing -/

/-- An input is decoded as a whole before anything of it is taken over. -/
theorem kept_deserializeAs {s : Bytes} {f : Format} {e : Error}
    (failed : (c.deserializeAs s f).1 = .error e) : c.Kept (c.deserializeAs s f).2 := by
  -- whatever can go wrong has gone wrong before the container is touched
  obtain ⟨e', refused⟩ | ⟨d, -, -, received⟩ := deserializeAs_cases s f c
  · rw [refused]
    exact Kept.refl c
  · rw [received] at failed
    cases failed

theorem kept_deserialize {s : Bytes} {e : Error} (failed : (c.deserialize s).1 = .error e) :
    c.Kept (c.deserialize s).2 := by
  unfold deserialize at failed ⊢
  split at failed
  · exact Kept.refl c
  · exact kept_deserializeAs failed

/-- Taking over only the header fails before anything is taken over, or not at all. -/
theorem parseLazy_cases (s : Bytes) (c : Container) :
    (∃ e, c.parseLazy s = (.error e, c)) ∨ ∃ d, c.parseLazy s = (.ok (), d) := by
  unfold parseLazy
  cases c.checkSize s with
  | error e => exact .inl ⟨e, rfl⟩
  | ok u =>
    dsimp only
    by_cases other : Format.detect? s ≠ some .text
    · rw [if_pos other]
      exact .inl ⟨_, rfl⟩
    · rw [if_neg other]
      cases Delimited.scanHeader s with
      | error fault => exact .inl ⟨_, rfl⟩
      | ok header => exact .inr ⟨_, rfl⟩

theorem kept_parseLazy {s : Bytes} {e : Error} (failed : (c.parseLazy s).1 = .error e) :
    c.Kept (c.parseLazy s).2 := by
  obtain ⟨e', refused⟩ | ⟨d, accepted⟩ := parseLazy_cases s c
  · rw [refused]
    exact Kept.refl c
  · rw [accepted] at failed
    cases failed

/-- Writing looks at the values, whether or not they can be written. -/
theorem kept_serialize [Memory] (f : Format) (c : Container) (pool : Pool) :
    c.Kept (c.serialize f pool).2.1 := by
  rw [serialize_access]
  exact kept_access c

theorem kept_serializeText [Memory] (f : Format) (c : Container) (pool : Pool) :
    c.Kept (c.serializeText f pool).2.1 := by
  unfold serializeText
  split
  · exact Kept.refl c
  · exact kept_serialize f c pool

theorem kept_copy [Memory] (withValues : Bool) (c : Container) (pool : Pool) :
    c.Kept (c.copy withValues pool).2.1 := by
  rw [(copy_access withValues c pool).1]
  exact kept_access c

/-! ## Requests -/

/-- An answer of `ofExcept` that stands for a failure comes from one. -/
theorem eq_error_of_ofExcept {f : α → Answer} {x : Except Error α} {e : Error}
    (answers : ∀ a, f a ≠ .failed e) (failed : Answer.ofExcept f x = .failed e) : x = .error e := by
  cases x with
  | ok a => exact absurd failed (answers a)
  | error e' =>
    cases failed
    rfl

theorem eq_error_of_ofUnit {x : Except Error Unit} {e : Error}
    (failed : Answer.ofUnit x = .failed e) : x = .error e := by
  refine eq_error_of_ofExcept (f := fun _ => .done) ?_ failed
  intro done
  exact nofun

/-- A request that fails. -/
theorem kept_of_failed [Memory] {r : Request} {pool : Pool} {e : Error}
    (failed : (r.perform c pool).1 = .failed e) : c.Kept (r.perform c pool).2.1 := by
  cases r with
  | set n => exact kept_set (eq_error_of_ofUnit failed)
  | setAll values => exact kept_setAll (eq_error_of_ofUnit failed)
  | bulkInsert values => exact kept_bulkInsert (eq_error_of_ofUnit failed)
  | remove key => exact kept_remove (eq_error_of_ofUnit failed)
  | get key target => exact kept_query _ c
  | snapshot => exact kept_query _ c
  | serialize f => exact kept_serialize f c pool
  | serializeText f => exact kept_serializeText f c pool
  | deserialize s => exact kept_deserialize (eq_error_of_ofUnit failed)
  | deserializeAs s f => exact kept_deserializeAs (eq_error_of_ofUnit failed)
  | parseLazy s => exact kept_parseLazy (eq_error_of_ofUnit failed)
  | copy withValues => exact kept_copy withValues c pool
  | ensureIndex => exact kept_ensureIndex c
  -- all other requests have no answer that is a failure
  | _ => cases failed

/-- An answer that is `Idle` is given by a container that keeps what it has. -/
theorem kept_of_answer [Memory] {r : Request} {pool : Pool} {answer : Answer}
    (answered : (r.perform c pool).1 = answer) (idle : r.Idle answer) :
    c.Kept (r.perform c pool).2.1 := by
  cases idle with
  | failed r e => exact kept_of_failed answered
  | updateIf u => exact kept_updateIf (Answer.flag.inj answered)
  | updateBatchIf us none =>
    have unmade : ∀ b ∈ (c.updateBatchIf us).1, b = false := by
      rw [Answer.flags.inj answered]
      exact none
    exact kept_updateBatchIf unmade
  | removeBatch keys => exact kept_removeBatch (Answer.count.inj answered)

/-- A request that fails, or reports to have had no effect, leaves header, settings, values and kept
text as they were: the container is `Kept`. At most the deferred values have been decoded, or the
entries of the text have become known. -/
theorem kept_of_idle [Memory] {r : Request} {pool : Pool} (idle : r.Idle (r.perform c pool).1) :
    c.Kept (r.perform c pool).2.1 :=
  kept_of_answer rfl idle

/-- A text without a header, and with one value. -/
def shortText : Bytes := Utf8.encode "@data=\x7b[a,1,1];\x7d"

open scoped Memory.Plenty

/-- Removing a name that has no value decodes the deferred values, and does nothing else. -/
theorem kept_of_idle_shortText :
    let c := ((new .indexed).parseLazy shortText).2
    c.isMaterialized = false ∧ (c.remove "b").1 = .error (.keyNotFound "b") ∧
      (c.remove "b").2.isMaterialized = true ∧
      c.Kept ((Request.remove "b").perform c (.direct 0)).2.1 := by
  intro c
  have failed : (c.remove "b").1 = .error (.keyNotFound "b") := by decide +kernel
  have answered : ((Request.remove "b").perform c (.direct 0)).1 = .failed (.keyNotFound "b") := by
    change Answer.ofUnit (c.remove "b").1 = _
    rw [failed]
    rfl
  refine ⟨by decide +kernel, failed, by decide +kernel, kept_of_idle ?_⟩
  rw [answered]
  exact .failed _ _

end Container

end Parcel
