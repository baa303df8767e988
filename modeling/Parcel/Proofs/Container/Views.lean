import Mathlib.Data.List.Forall2
import Parcel.Proofs.Container.Change
import Parcel.Proofs.Unicode.Utf8

/-!
# Views show what the store holds

A container that keeps a text beside its store keeps the text that the store was filled from: every
change of the values drops the text. A text that can be decoded has one entry for each value, with
its name, its kind and its payload, so looking a name up among the entries and looking it up in the
store find the same value.

## Main definitions

* `View.Shows` — a view of a value
* `Container.Faithful` — the index is exact, and the store comes from the kept text

## Main results

* `Container.Faithful.change` — no change breaks it
* `Container.Reachable.faithful` — it holds of every container that comes about
* `Container.Reachable.views_show` — the views are those of the values
-/

namespace Parcel

open Delimited (Entry)

/-- A view of the value `n`: its name, its kind, and the value itself on reading. -/
structure View.Shows (v : View) (n : Named) : Prop where
  name : v.nameText = n.name
  kind : v.kind = n.kind
  value : v.read = .ok n.value

/-! ## Entries and values -/

namespace Delimited.Entry

variable {e : Entry} {n : Named} {entries : List Entry} {values : List Named}

/-- The name of an entry that `materialize` can read is the UTF-8 form of the name of its value. -/
theorem name_of_materialize (read : e.materialize 0 = .ok n) :
    e.name.bytes = Utf8.encode n.name := by
  obtain ⟨name, decoded, rest⟩ := Except.exists_of_bind_eq_ok read
  obtain ⟨value, -, finish⟩ := Except.exists_of_bind_eq_ok rest
  cases finish
  exact Utf8.eq_encode_of_decode (Except.eq_ok_of_mapError_eq_ok decoded)

/-- An entry that can be read shows its value. -/
theorem shows_of_materialize (read : e.materialize 0 = .ok n) : View.Shows e n := by
  have named := name_of_materialize read
  obtain ⟨name, -, rest⟩ := Except.exists_of_bind_eq_ok read
  obtain ⟨value, decoded, finish⟩ := Except.exists_of_bind_eq_ok rest
  cases finish
  replace decoded : decodeValue e.kind e.value.bytes 0 = .ok value := decoded
  refine ⟨?_, (kind_of_decodeWithin decoded).symm, ?_⟩
  · rw [View.nameText, named, Utf8.decode_encode]
    rfl
  · rw [View.read, decoded]
    rfl

/-- Entries that can all be read show their values one by one, in the sense of `View.Shows`. -/
theorem forall₂_shows (read : entries.mapM (·.materialize 0) = .ok values) :
    List.Forall₂ View.Shows entries values :=
  (List.mapM_eq_ok_iff.mp read).imp fun _ _ => shows_of_materialize

/-- When entries go with values one by one, as `related` has it, and each under the same name, then
the first entry of a name goes with the first value of that name. -/
theorem rel_find?_of_forall₂ {related : Entry → Named → Prop}
    (named : ∀ e n, related e n → e.name.bytes = Utf8.encode n.name)
    (all : List.Forall₂ related entries values) (key : String) :
    Option.Rel related (entries.find? fun e => e.name.bytes == Utf8.encode key)
      (Named.find? key values) := by
  induction all with
  | nil => exact .none
  | @cons e n entries values first _ ih =>
    -- both searches stop here or neither does, since UTF-8 forms differ when names do
    by_cases same : n.name = key
    · have equal : e.name.bytes = Utf8.encode key :=
        (named e n first).trans (congrArg Utf8.encode same)
      rw [Named.find?, List.find?_cons_of_pos (by simpa using equal),
        List.find?_cons_of_pos (by simpa using same)]
      exact .some first
    · have differ : e.name.bytes ≠ Utf8.encode key := by
        rw [named e n first]
        exact fun equal => same (Utf8.encode_injective equal)
      rw [Named.find?, List.find?_cons_of_neg (by simpa using differ),
        List.find?_cons_of_neg (by simpa using same)]
      exact ih

/-- The first entry of the name `key` is read as the first value of that name. -/
theorem rel_find? (key : String) (read : entries.mapM (·.materialize 0) = .ok values) :
    Option.Rel (fun e n => e.materialize 0 = .ok n)
      (entries.find? fun e => e.name.bytes == Utf8.encode key) (Named.find? key values) :=
  rel_find?_of_forall₂ (fun _ _ => name_of_materialize) (List.mapM_eq_ok_iff.mp read) key

end Delimited.Entry

/-! ## The kept text -/

/-- The index of the store is exact, and a text that is kept beside it has the values of the
store. -/
def Content.Faithful : Content → Prop
  | .held store raw => store.Exact ∧ ∀ r ∈ raw, r.values = .ok store.toList
  | .deferred _ => True

namespace Container

/-- The index of the store is exact, and the store comes from the text that is kept. -/
def Faithful (c : Container) : Prop := c.content.Faithful

variable {taken : Format → Document → Prop} {c c' : Container}

theorem faithful_ofDocument (policy : Policy) (d : Document) : (ofDocument policy d).Faithful :=
  ⟨Store.exact_ofList policy d.values, nofun⟩

/-- A text is kept only if it is the input `s` itself, and that was decoded into the store. -/
theorem faithful_holdingDocument {s : Bytes} {f : Format} {d : Document} {raw : Option RawText}
    (c : Container) (decoded : Codec.decode f s = .ok d)
    (kept : ∀ r ∈ raw, f = .text ∧ r = .of s) : (c.holdingDocument d raw).Faithful := by
  refine ⟨Store.exact_ofList c.policy d.values, ?_⟩
  intro r isRaw
  obtain ⟨rfl, rfl⟩ := kept r isRaw
  rw [RawText.values_eq, RawText.of, decoded, Store.toList_ofList]
  rfl

/-- The store that `access` reaches is indexed exactly, and comes from the text if one is kept. -/
theorem Faithful.access (faithful : c.Faithful) :
    c.access.2.Faithful ∧ ∀ store, c.access.1 = .ok store →
      store.Exact ∧ ∀ r ∈ c.raw?, r.values = .ok store.toList := by
  obtain ⟨header, policy, content, config⟩ := c
  cases content with
  | held store raw =>
    refine ⟨faithful, ?_⟩
    rintro found ⟨⟩
    exact faithful
  | deferred raw =>
    have same : raw.indexed.values = raw.values := RawText.values_congr (RawText.bytes_indexed raw)
    cases decoded : raw.indexed.values with
    | error e =>
      simp only [Container.access, decoded]
      refine ⟨trivial, ?_⟩
      rintro store ⟨⟩
    | ok values =>
      have exact := Store.exact_ofList policy values
      simp only [Container.access, decoded]
      refine ⟨⟨exact, ?_⟩, ?_⟩
      · rintro r ⟨⟩
        rw [decoded, Store.toList_ofList]
      · rintro store ⟨⟩
        refine ⟨exact, ?_⟩
        rintro r ⟨⟩
        rw [← same, decoded, Store.toList_ofList]

theorem Faithful.ensureIndex (faithful : c.Faithful) : c.ensureIndex.2.Faithful := by
  obtain ⟨header, policy, content, config⟩ := c
  cases content with
  | deferred raw => exact trivial
  | held store raw =>
    obtain ⟨exact, kept⟩ := faithful
    cases raw with
    | none => exact ⟨exact, kept⟩
    | some r =>
      refine ⟨exact, ?_⟩
      rintro _ ⟨⟩
      rw [RawText.values_congr (RawText.bytes_indexed r)]
      exact kept r rfl

/-- No change makes a container other than `Faithful`. -/
theorem Faithful.change (faithful : c.Faithful) (change : c.Change taken c') : c'.Faithful := by
  cases change with
  | relabel header config => exact faithful
  | index => exact faithful.ensureIndex
  | access => exact faithful.access.1
  | edit reached edited =>
    -- the text is dropped, so only the index matters
    obtain ⟨exact, -⟩ := faithful.access.2 _ reached
    exact ⟨exact.edited edited, nofun⟩
  | clear => exact ⟨Store.exact_ofList c.policy [], nofun⟩
  | receive _ decoded kept => exact faithful_holdingDocument c decoded kept
  | defer headed => exact trivial

theorem Faithful.changes (faithful : c.Faithful) (changes : c.Changes taken c') :
    c'.Faithful := by
  induction changes with
  | refl => exact faithful
  | tail _ change ih => exact ih.change change

theorem Reachable.faithful [Memory] (reachable : c.Reachable) : c.Faithful := by
  obtain ⟨policy, d, changes⟩ := reachable.exists_changes
  exact (faithful_ofDocument policy d).changes changes

/-! ## Views and values -/

variable {raw : RawText} {d : Document} {entries : List Entry}

/-- The views are the `entries` of the kept text. -/
theorem views_eq (kept : c.raw? = some raw) (scanned : raw.entries = .ok entries) :
    c.views.1 = entries := by
  rw [Container.views, kept]
  change raw.entries.toOption.getD [] = _
  rw [scanned]
  rfl

/-- The view of the name `key` is the first entry of that name. -/
theorem view?_eq (kept : c.raw? = some raw) (scanned : raw.entries = .ok entries) (key : String) :
    (c.view? key).1 = entries.find? fun e => e.name.bytes == Utf8.encode key := by
  rw [Container.view?, kept]
  change raw.view? key = _
  rw [RawText.view?, scanned]

/-- When the kept text can be decoded, `access` reaches a store, and it holds the values of the
text. -/
theorem Faithful.exists_store (faithful : c.Faithful) (kept : c.raw? = some raw)
    (decoded : Codec.decode .text raw.bytes = .ok d) :
    ∃ store, c.access.1 = .ok store ∧ store.Exact ∧ store.toList = d.values := by
  have values : raw.values = .ok d.values := by
    rw [RawText.values_eq, decoded]
    rfl
  have reached : ∃ store, c.access.1 = .ok store := by
    obtain ⟨header, policy, content, config⟩ := c
    cases content with
    | held store _ => exact ⟨store, rfl⟩
    | deferred r =>
      cases kept
      have indexed : raw.indexed.values = .ok d.values := by
        rw [RawText.values_congr (RawText.bytes_indexed raw), values]
      simp only [Container.access, indexed]
      exact ⟨_, rfl⟩
  obtain ⟨store, reached⟩ := reached
  obtain ⟨exact, same⟩ := faithful.access.2 store reached
  refine ⟨store, reached, exact, ?_⟩
  exact Except.ok.inj ((same raw kept).symm.trans values)

/-- A question `f` to a store that is reached has its answer. -/
theorem queryOr_eq {α : Type} {store : Store} (absent : α) (f : Store → α)
    (reached : c.access.1 = .ok store) : (c.queryOr absent f).1 = f store := by
  unfold Container.queryOr Container.query Container.visit
  generalize c.access = r at reached
  obtain ⟨answer, c'⟩ := r
  cases reached
  rfl

/-- A `Reachable` container that keeps a text that can be decoded has the values of the text. For
every name, and for all entries in order, what is viewed `Shows` what is stored. -/
theorem Reachable.views_show [Memory] (reachable : c.Reachable) (kept : c.raw? = some raw)
    (decoded : Codec.decode .text raw.bytes = .ok d) :
    c.values.1 = d.values ∧
      (∀ key, Option.Rel View.Shows (c.view? key).1 (c.getValue key).1) ∧
      List.Forall₂ View.Shows c.views.1 c.values.1 := by
  obtain ⟨store, reached, exact, same⟩ := reachable.faithful.exists_store kept decoded
  obtain ⟨entries, scanned, read⟩ := RawText.exists_entries_of_decode decoded
  have values : c.values.1 = d.values := (queryOr_eq _ _ reached).trans same
  refine ⟨values, ?_, ?_⟩
  · intro key
    have stored : (c.getValue key).1 = Named.find? key d.values := by
      rw [← same, ← exact.get?_eq]
      exact queryOr_eq _ _ reached
    rw [stored, view?_eq kept scanned]
    -- entries and values stand side by side, so the first of a name is at the same place in both
    have found := Entry.rel_find? key read
    revert found
    generalize entries.find? _ = entry?, Named.find? key d.values = value?
    rintro (shows | _)
    · exact .some (Entry.shows_of_materialize shows)
    · exact .none
  · rw [views_eq kept scanned, values]
    exact Entry.forall₂_shows read

/-- A text with a repeated name, without a header, and with blanks where they are allowed. -/
def scatteredText : Bytes := Utf8.encode "@data=\x7b [a,1,1]; [a, 4 ,+7]; \x7d"

open scoped Memory.Plenty

theorem views_show_scatteredText :
    let c := (Session.step (.ask (.deserializeAs scatteredText .text))
      ⟨.new .indexed, .direct 0, .empty "."⟩).2.container
    c.Reachable ∧ c.raw? = some (.of scatteredText) ∧
      ∃ d, Codec.decode .text scatteredText = .ok d ∧
        d.values.map (fun n => (n.name, n.kind)) = [("a", .bool), ("a", .integer .int)] ∧
        c.values.1 = d.values ∧
        (∀ key, Option.Rel View.Shows (c.view? key).1 (c.getValue key).1) ∧
        List.Forall₂ View.Shows c.views.1 c.values.1 := by
  intro c
  have shape : (Codec.decode .text scatteredText).map
        (fun d => d.values.map fun n => (n.name, n.kind)) =
      .ok [("a", .bool), ("a", .integer .int)] := by
    decide +kernel
  obtain ⟨d, decoded, shape⟩ := Except.exists_of_map_eq_ok shape
  have reachable : c.Reachable := .step _ (.new .indexed)
  have accepted : ((new .indexed).deserializeAs scatteredText .text).1 = .ok () := by
    decide +kernel
  have kept : c.raw? = some (.of scatteredText) := by
    change ((new .indexed).deserializeAs scatteredText .text).2.raw? = _
    obtain ⟨e, refused⟩ | ⟨d, -, -, received⟩ :=
      deserializeAs_cases scatteredText .text (new .indexed)
    · rw [refused] at accepted
      cases accepted
    · rw [received]
      rfl
  exact ⟨reachable, kept, d, decoded, shape, reachable.views_show kept decoded⟩

end Container

end Parcel
