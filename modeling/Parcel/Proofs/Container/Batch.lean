import Parcel.Proofs.Container.Exchange
import Parcel.Proofs.Store.Batch

/-!
# Batches do what their operations do one after the other

An operation on many values reaches the store once, works through its arguments, and drops the kept
text at the end if anything has changed. The same operations made one by one reach the store each
time, see what the ones before have changed, and drop the text at the first change. Both come to the
same answers and leave the same container, whether the values are decoded, deferred, or cannot be
decoded at all. Only a batch of nothing may differ: it still reaches the store, and so looks at the
values.

## Main definitions

* `Container.each` — operations on a container, one after the other

## Main results

* `Container.access_access` — looking again shows what looking has shown
* `Container.each_visit_cases` — a run of operations on the store
* `Container.kept_each` — a batch on the store leaves what its operations leave
* `Container.batch_eq_each` — the batches of a container
-/

namespace Parcel

/-- A text whose entries are known is not scanned again, and one that cannot be scanned stays as it
is. -/
theorem RawText.indexed_indexed (r : RawText) : r.indexed.indexed = r.indexed := by
  have known {r : RawText} (isKnown : r.known.isSome = true) : r.indexed = r := by
    obtain ⟨found, known⟩ := Option.isSome_iff_exists.1 isKnown
    simp only [indexed, known]
  have outcome : r.indexed = r ∨ r.indexed.known.isSome = true := by
    unfold indexed
    split
    · exact .inl rfl
    · split
      · exact .inr rfl
      · exact .inl rfl
  rcases outcome with same | found
  · rw [same, same]
  · exact known found

namespace Container

variable {α β γ : Type} {c : Container}

/-- Operations on a container, one after the other, with what each of them gives. -/
def each (f : α → Container → β × Container) : List α → Container → List β × Container
  | [], c => ([], c)
  | a :: rest, c =>
    let (answer, c) := f a c
    let (answers, c) := each f rest c
    (answer :: answers, c)

theorem each_cons (f : α → Container → β × Container) (a : α) (rest : List α) (c : Container) :
    each f (a :: rest) c =
      ((f a c).1 :: (each f rest (f a c).2).1, (each f rest (f a c).2).2) := rfl

/-- Answers may be translated one by one or at the end of `each`. -/
theorem each_map (translate : β → γ) (f : α → Container → β × Container) (as : List α)
    (c : Container) :
    each (fun a c => (translate (f a c).1, (f a c).2)) as c =
      ((each f as c).1.map translate, (each f as c).2) := by
  induction as generalizing c with
  | nil => rfl
  | cons a rest ih => rw [each_cons, ih, each_cons, List.map_cons]

theorem each_congr {f g : α → Container → β × Container} {as : List α}
    (same : ∀ a ∈ as, f a = g a) (c : Container) : each f as c = each g as c := by
  induction as generalizing c with
  | nil => rfl
  | cons a rest ih =>
    obtain ⟨here, later⟩ := List.forall_mem_cons.1 same
    rw [each_cons, each_cons, here, ih later]

/-! ## Operations on the store -/

/-- Looking again shows what looking has shown. -/
theorem access_access (c : Container) : c.access.2.access = c.access := by
  obtain ⟨header, policy, content, config⟩ := c
  cases content with
  | held store raw => rfl
  | deferred raw =>
    cases read : raw.indexed.values with
    | ok values => simp only [access, read]
    | error e => simp only [access, read, RawText.indexed_indexed]

theorem visit_access (f : Store → Except Error α × Option Store) (c : Container) :
    c.access.2.visit f = c.visit f := by
  rw [visit, access_access, visit]

/-! ## Runs of operations on the store -/

variable {f : α → Store → Except Error β × Option Store} {F : Store → Except Error γ × Option Store}

/-- A run of operations on a container whose `store` is reached, as one on the store. -/
theorem each_visit_of_ok {store : Store} (reached : c.access = (.ok store, c)) (as : List α) :
    each (fun a => visit (f a)) as c =
      ((Store.each f as store).1, ((Store.each f as store).2.map c.holding).getD c) := by
  induction as generalizing c store with
  | nil => rfl
  | cons a rest ih =>
    have first := visit_eq (congrArg Prod.fst reached) (f a)
    rw [each_cons, first, Store.each_cons, congrArg Prod.snd reached]
    cases made : (f a store).2 with
    | none =>
      simp only [Option.map_none, Option.getD_none, Option.or_none, ih reached]
    | some t =>
      -- the store that was made is the one that the others reach
      have reached' : (c.holding t).access = (.ok t, c.holding t) := rfl
      simp only [Option.map_some, Option.getD_some, ih reached']
      cases (Store.each f rest t).2 <;> rfl

/-- A run of operations on a container whose store is not reached: each answers with `e`. -/
theorem each_visit_of_error {e : Error} (refused : c.access = (.error e, c)) (as : List α) :
    each (fun a => visit (f a)) as c = (as.map fun _ => .error e, c) := by
  induction as with
  | nil => rfl
  | cons a rest ih =>
    have first := visit_eq_of_error (congrArg Prod.fst refused) (f a)
    rw [congrArg Prod.snd refused] at first
    rw [each_cons, first, ih, List.map_cons]

/-- A run of operations is one on the container that `access` has looked at. -/
theorem each_visit_access (as : List α) (c : Container) :
    (each (fun a => visit (f a)) as c).1 = (each (fun a => visit (f a)) as c.access.2).1 ∧
      (each (fun a => visit (f a)) as c).2.access.2 =
        (each (fun a => visit (f a)) as c.access.2).2.access.2 := by
  cases as with
  | nil => exact ⟨rfl, (congrArg Prod.snd (access_access c)).symm⟩
  | cons a rest =>
    rw [each_cons, each_cons, visit_access]
    exact ⟨rfl, rfl⟩

/-- Either the store cannot be reached, and a run of operations reports the error `e` each time, or
it is, and the run does what the operations do to the store. -/
theorem each_visit_cases (f : α → Store → Except Error β × Option Store) (as : List α)
    (c : Container) :
    (∃ e, c.access.1 = .error e ∧
        (each (fun a => visit (f a)) as c).1 = as.map (fun _ => .error e) ∧
        (each (fun a => visit (f a)) as c).2.access.2 = c.access.2) ∨
      ∃ store, c.access.1 = .ok store ∧
        (each (fun a => visit (f a)) as c).1 = (Store.each f as store).1 ∧
        (each (fun a => visit (f a)) as c).2.access.2 =
          ((Store.each f as store).2.map c.holding).getD c.access.2 := by
  have again := access_access c
  obtain ⟨answers, left⟩ := each_visit_access (f := f) as c
  rw [answers, left]
  cases reached : c.access.1 with
  | error e =>
    have refused : c.access.2.access = (.error e, c.access.2) := by rw [again, ← reached]
    rw [each_visit_of_error refused, congrArg Prod.snd refused]
    exact .inl ⟨e, rfl, rfl, rfl⟩
  | ok store =>
    have held : c.access.2.access = (.ok store, c.access.2) := by rw [again, ← reached]
    rw [each_visit_of_ok held]
    refine .inr ⟨store, rfl, rfl, ?_⟩
    cases (Store.each f as store).2 with
    | none => exact (congrArg Prod.snd held :)
    | some t => exact holding_access c t

/-- An operation `F` that leaves the store that a run leaves has the same effect as the run. -/
theorem kept_each {as : List α}
    (same : ∀ store, c.access.1 = .ok store → (F store).2 = (Store.each f as store).2) :
    (each (fun a => visit (f a)) as c).2.Kept (c.visit F).2 := by
  have left : (c.visit F).2 = (each (fun a => visit (f a)) as c).2.access.2 := by
    obtain ⟨e, refused, -, unchanged⟩ | ⟨store, reached, -, changed⟩ := each_visit_cases f as c
    · rw [visit_eq_of_error refused, unchanged]
    · rw [visit_eq reached, changed, same store reached]
  rw [left]
  exact kept_access _

/-! ## Batches -/

/-- Puts are answered alike, whether one by one or all at once by `setAll`: they are all made, or
the store cannot be reached. -/
theorem setAll_eq_each {values : List Named} (named : ∀ n ∈ values, n.name ≠ "") :
    (∀ r ∈ (each set values c).1, r = (c.setAll values).1) ∧
      (each set values c).2.Kept (c.setAll values).2 := by
  have single : ∀ n ∈ values, set n = visit (Store.putting n) := by
    intro n member
    funext c
    rw [set, if_neg (named n member)]
    rfl
  have batch : c.setAll values = c.visit fun store =>
      (.ok (), if values.isEmpty then none else some (store.setAll values)) := by
    rw [setAll, if_neg (by rw [allNamed_iff.2 named]; decide)]
  rw [each_congr single, batch]
  refine ⟨?_, kept_each fun store _ => by rw [Store.each_putting]⟩
  obtain ⟨e, refused, answers, -⟩ | ⟨store, reached, answers, -⟩ :=
    each_visit_cases Store.putting values c
  · rw [answers, visit_eq_of_error refused]
    simp
  · rw [answers, visit_eq reached, Store.each_putting]
    simp

theorem each_queryOr (absent : β) (f : α → Store → β) (as : List α) (c : Container) :
    each (fun a => queryOr absent (f a)) as c =
      ((each (fun a => visit (Store.asking f a)) as c).1.map fun r => r.toOption.getD absent,
        (each (fun a => visit (Store.asking f a)) as c).2) :=
  each_map (fun r : Except Error β => r.toOption.getD absent) _ as c

/-- One question for each of several arguments. -/
theorem queryOr_eq_each (absent : β) (f : α → Store → β) (as : List α) (c : Container) :
    (c.queryOr (as.map fun _ => absent) fun store => as.map fun a => f a store).1 =
      (each (fun a => queryOr absent (f a)) as c).1 := by
  rw [each_queryOr]
  obtain ⟨e, refused, answers, -⟩ | ⟨store, reached, answers, -⟩ :=
    each_visit_cases (Store.asking f) as c
  · rw [answers, queryOr, query, visit_eq_of_error refused, List.map_map]
    rfl
  · rw [answers, queryOr, query, visit_eq reached, Store.each_asking, List.map_map]
    rfl

/-- A question, whatever it is, leaves what questions one by one leave. -/
theorem kept_each_queryOr (absent : β) (f : α → Store → β) (as : List α) (other : γ)
    (g : Store → γ) (c : Container) :
    (each (fun a => queryOr absent (f a)) as c).2.Kept (c.queryOr other g).2 := by
  rw [each_queryOr]
  apply kept_each (F := fun store => (.ok (g store), none))
  intro store reached
  rw [Store.each_asking]

/-- Removals one by one are counted by `removeBatch`. -/
theorem removeBatch_eq_each (keys : List String) (c : Container) :
    (c.removeBatch keys).1 = (each remove keys c).1.countP (·.isOk) ∧
      (each remove keys c).2.Kept (c.removeBatch keys).2 := by
  change _ = (each (fun key => visit (Store.removing key)) keys c).1.countP (·.isOk) ∧
    (each (fun key => visit (Store.removing key)) keys c).2.Kept _
  constructor
  · rw [removeBatch]
    obtain ⟨e, refused, answers, -⟩ | ⟨store, reached, answers, -⟩ :=
      each_visit_cases Store.removing keys c
    · rw [answers, visit_eq_of_error refused, List.countP_map]
      exact (List.countP_eq_zero.2 fun key _ => Bool.false_ne_true).symm
    · rw [answers, visit_eq reached, Store.removeAll_eq]
      rfl
  · exact kept_each fun store _ => (Store.each_removing_snd keys store).symm

/-- Updates one by one are told as `updateBatchIf` tells them. -/
theorem updateBatchIf_eq_each (us : List Update) (c : Container) :
    (c.updateBatchIf us).1 = (each updateIf us c).1 ∧
      (each updateIf us c).2.Kept (c.updateBatchIf us).2 := by
  have single : each updateIf us c =
      ((each (fun u => visit (Store.updating u)) us c).1.map fun r => r.toOption.getD false,
        (each (fun u => visit (Store.updating u)) us c).2) :=
    each_map (fun r : Except Error Bool => r.toOption.getD false) _ us c
  rw [single]
  constructor
  · rw [updateBatchIf]
    obtain ⟨e, refused, answers, -⟩ | ⟨store, reached, answers, -⟩ :=
      each_visit_cases Store.updating us c
    · rw [answers, visit_eq_of_error refused, List.map_map]
      rfl
    · rw [answers, visit_eq reached, Store.updateAll_eq]
      rfl
  · exact kept_each fun store _ => (Store.each_updating_snd us store).symm

/-- What `getBatchMap` has under `key` is what the question for it alone has found. -/
theorem getElem?_getBatchMap (faithful : c.Faithful) (keys : List String) (key : String) :
    (c.getBatchMap keys).1[key]? =
      if key ∈ keys then (c.getValue key).1.map (·.value) else none := by
  cases reached : c.access.1 with
  | error e =>
    rw [getBatchMap, getValue, queryOr, query, visit_eq_of_error reached, queryOr, query,
      visit_eq_of_error reached]
    simp [Except.toOption]
  | ok store =>
    obtain ⟨exact, -⟩ := faithful.access.2 store reached
    rw [getBatchMap, getValue, queryOr_eq _ _ reached, queryOr_eq _ _ reached,
      exact.getElem?_collect]

/-- Every batch of a `Reachable` container is what its operations are one after the other: their
answers, in order, counted, or by name, and the container that they leave, at most looked at. So
header, values and settings are the same, and the kept text has been dropped exactly if one of the
operations has dropped it. -/
theorem batch_eq_each [Memory] (reachable : c.Reachable) :
    (∀ values : List Named, (∀ n ∈ values, n.name ≠ "") →
      (∀ r ∈ (each set values c).1, r = (c.setAll values).1) ∧
        (each set values c).2.Kept (c.setAll values).2) ∧
    (∀ keys, (c.getBatch keys).1 = (each getValue keys c).1 ∧
      (each getValue keys c).2.Kept (c.getBatch keys).2) ∧
    (∀ keys, (c.containsBatch keys).1 = (each contains keys c).1 ∧
      (each contains keys c).2.Kept (c.containsBatch keys).2) ∧
    (∀ keys, (∀ key, (c.getBatchMap keys).1[key]? =
        if key ∈ keys then (c.getValue key).1.map (·.value) else none) ∧
      (each getValue keys c).2.Kept (c.getBatchMap keys).2) ∧
    (∀ keys, (c.removeBatch keys).1 = (each remove keys c).1.countP (·.isOk) ∧
      (each remove keys c).2.Kept (c.removeBatch keys).2) ∧
    ∀ us, (c.updateBatchIf us).1 = (each updateIf us c).1 ∧
      (each updateIf us c).2.Kept (c.updateBatchIf us).2 := by
  refine ⟨fun values named => setAll_eq_each named, ?_, ?_, ?_,
    fun keys => removeBatch_eq_each keys c, fun us => updateBatchIf_eq_each us c⟩
  · intro keys
    exact ⟨queryOr_eq_each none Store.get? keys c, kept_each_queryOr none Store.get? keys _ _ c⟩
  · intro keys
    exact ⟨queryOr_eq_each false Store.contains keys c,
      kept_each_queryOr false Store.contains keys _ _ c⟩
  · intro keys
    exact ⟨getElem?_getBatchMap reachable.faithful keys,
      kept_each_queryOr none Store.get? keys _ _ c⟩

/-- A container that has taken over the text with a repeated name, and has not decoded it. -/
def waiting : Container := ((new .indexed).parseLazy scatteredText).2

/-- Two values of one name. -/
def repeated : List Named := [⟨"b", .null⟩, ⟨"b", .bool true⟩]

open scoped Memory.Plenty

theorem batch_eq_each_waiting :
    waiting.Reachable ∧ waiting.isMaterialized = false ∧ (∀ n ∈ repeated, n.name ≠ "") ∧
      (each set repeated waiting).2.Kept (waiting.setAll repeated).2 ∧
      (each remove ["a", "c", "a"] waiting).1.countP (·.isOk) = 1 ∧
      (waiting.removeBatch ["a", "c", "a"]).1 = 1 ∧
      (each remove ["a", "c", "a"] waiting).2.Kept (waiting.removeBatch ["a", "c", "a"]).2 := by
  have reachable : waiting.Reachable :=
    .step (s := ⟨.new .indexed, .direct 0, .empty "."⟩) (.ask (.parseLazy scatteredText))
      (.new .indexed)
  have named : ∀ n ∈ repeated, n.name ≠ "" := by decide
  have counted : (each remove ["a", "c", "a"] waiting).1.countP (·.isOk) = 1 := by decide +kernel
  obtain ⟨puts, -, -, -, removals, -⟩ := batch_eq_each reachable
  obtain ⟨count, left⟩ := removals ["a", "c", "a"]
  exact ⟨reachable, by decide +kernel, named, (puts repeated named).2, counted,
    count.trans counted, left⟩

end Container

end Parcel
