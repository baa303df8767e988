import Parcel.Proofs.Container.Contents
import Parcel.Proofs.Delimited.Reencoding
import Parcel.Proofs.Xml.Labelled

/-!
# Names of the values in a container

No operation puts a value without a name into a container, and neither the delimited text nor XML
can carry one. JSON and MessagePack can, and a container takes over what they hold as it is. So a
value without a name goes back to a document that was taken over in one of these two formats.

## Main definitions

* `Document.Labelled`, `Container.Labelled` — all values have names
* `Container.Grown` — the containers that come about from new ones, when only some documents are
  taken over

## Main results

* `Container.labelled_of_decode` — what the delimited text and XML can carry
* `Container.Labelled.change` — no other change brings a value without a name
* `Session.contents_of_takesOver` — what is taken over is held as it is
* `Container.Grown.exists_unlabelled_taken` — where a value without a name comes from
* `Container.keys_unnamed` — a container that holds one
-/

namespace Parcel

open Container (allNamed allNamed_iff)

/-! ## Stores -/

namespace Named

variable {n m : Named} {values : List Named}

/-- The only value that `put n` brings is `n`. -/
theorem mem_of_mem_put (mem : m ∈ put n values) : m = n ∨ m ∈ values := by
  induction values with
  | nil => exact .inl (List.mem_singleton.1 mem)
  | cons first rest ih =>
    rw [put] at mem
    split at mem
    · exact (List.mem_cons.1 mem).imp_right (List.mem_cons_of_mem first)
    · rcases List.mem_cons.1 mem with rfl | later
      · exact .inr List.mem_cons_self
      · exact (ih later).imp_right (List.mem_cons_of_mem first)

/-- Whether all values have names depends on the names alone. -/
theorem allNamed_congr {others : List Named} (names : values.map (·.name) = others.map (·.name))
    (named : allNamed others) : allNamed values := by
  rw [allNamed_iff] at named ⊢
  intro n mem
  have found : n.name ∈ others.map (·.name) := names ▸ List.mem_map_of_mem mem
  obtain ⟨m, other, same⟩ := List.mem_map.1 found
  exact same ▸ named m other

end Named

namespace Store

variable {s t : Store}

/-- No edit of a store with an `Exact` index brings a value without a name. -/
theorem Edit.allNamed (exact : s.Exact) (edit : s.Edit t) (named : allNamed s.toList) :
    allNamed t.toList := by
  rw [allNamed_iff] at named
  cases edit with
  | @set n name =>
    obtain ⟨-, put, -⟩ := exact.set n
    rw [put, allNamed_iff]
    intro m mem
    rcases Named.mem_of_mem_put mem with rfl | old
    · exact name
    · exact named m old
  | @push n name =>
    obtain ⟨-, appended, -⟩ := exact.push n
    rw [appended, allNamed_iff, List.forall_mem_append]
    exact ⟨named, by simpa using name⟩
  | @replace key value made replaced =>
    have kept := exact.replace? key value
    rw [replaced] at kept
    rw [kept.2.2.2]
    exact Named.allNamed_congr (Named.map_name_amend key value s.toList) (allNamed_iff.2 named)
  | remove key =>
    obtain ⟨-, filtered, -⟩ := exact.remove key
    rw [filtered, allNamed_iff]
    exact fun m mem => named m (List.mem_filter.1 mem).1

theorem Edited.allNamed (exact : s.Exact) (edited : s.Edited t) (named : allNamed s.toList) :
    allNamed t.toList := by
  induction edited with
  | refl => exact named
  | tail before edit ih => exact edit.allNamed (exact.edited before) ih

end Store

/-! ## Documents -/

/-- All values of the document have names. What they contain is not looked at. -/
def Document.Labelled (d : Document) : Prop := allNamed d.values

instance (d : Document) : Decidable d.Labelled :=
  inferInstanceAs (Decidable (allNamed d.values = true))

namespace Container

variable {s : Bytes} {f : Format} {d : Document}

/-- The scanner refuses an empty name. -/
theorem labelled_of_decode_text (decoded : Delimited.decode s = .ok d) : d.Labelled := by
  rw [Document.Labelled, allNamed_iff]
  intro n mem
  exact (Delimited.usable_of_usesName decoded ⟨d, .refl d, n, mem, rfl⟩).1

/-- The delimited text and XML carry `Labelled` documents only. -/
theorem labelled_of_decode (decoded : Codec.decode f s = .ok d)
    (other : f ≠ .json ∧ f ≠ .msgpack) : d.Labelled := by
  cases f with
  | text => exact labelled_of_decode_text (Except.eq_ok_of_mapError_eq_ok decoded)
  | json => exact absurd rfl other.1
  | xml =>
    have read := Except.eq_ok_of_mapError_eq_ok decoded
    exact allNamed_iff.2 (Xml.name_ne_of_decode read)
  | msgpack => exact absurd rfl other.2

/-! ## Containers -/

variable {taken : Format → Document → Prop} {c c' : Container}

/-- All values that the container holds, or that its deferred text decodes to, have names. -/
def Labelled (c : Container) : Prop := ∀ values, c.contents = .ok values → allNamed values

theorem Labelled.of_contents_eq (labelled : c.Labelled) (same : c'.contents = c.contents) :
    c'.Labelled := fun values held => labelled values (same ▸ held)

/-- The values of a document that is `Labelled`, as a store or still as a text. -/
theorem labelled_of_contents (held : c.contents = .ok d.values) (labelled : d.Labelled) :
    c.Labelled := by
  intro values read
  rw [held] at read
  cases read
  exact labelled

/-- No change brings a value without a name, apart from a document of `taken` that has one. -/
theorem Labelled.change (labelled : c.Labelled) (faithful : c.Faithful) (change : c.Change taken c')
    (documents : ∀ f d, taken f d → f = .json ∨ f = .msgpack → d.Labelled) : c'.Labelled := by
  cases change with
  | relabel header config => exact labelled
  | index => exact labelled.of_contents_eq (kept_ensureIndex c).contents
  | access => exact labelled.of_contents_eq (kept_access c).contents
  | @edit store made reached edited =>
    have held : c.contents = .ok store.toList := by
      rw [← map_toList_access, reached]
      rfl
    intro values read
    cases read
    exact edited.allNamed (faithful.access.2 store reached).1 (labelled _ held)
  | clear =>
    intro values read
    cases read
    rw [Store.empty, Store.toList_ofList]
    rfl
  | @receive s f d raw allowed decoded kept =>
    refine labelled_of_contents (contents_holdingDocument d raw c) ?_
    by_cases other : f ≠ .json ∧ f ≠ .msgpack
    · exact labelled_of_decode decoded other
    · refine documents f d allowed ?_
      rwa [not_and_or, not_not, not_not] at other
  | @defer s header headed =>
    -- the text that waits is decoded by the same codec as a text that is taken over at once
    intro values read
    change (RawText.of s).values = .ok values at read
    rw [RawText.values_eq] at read
    obtain ⟨d, decoded, rfl⟩ := Except.exists_of_map_eq_ok read
    exact labelled_of_decode decoded ⟨by decide, by decide⟩

theorem Labelled.changes (labelled : c.Labelled) (faithful : c.Faithful)
    (changes : c.Changes taken c')
    (documents : ∀ f d, taken f d → f = .json ∨ f = .msgpack → d.Labelled) :
    c'.Labelled ∧ c'.Faithful := by
  induction changes with
  | refl => exact ⟨labelled, faithful⟩
  | tail _ change ih => exact ⟨ih.1.change ih.2 change documents, ih.2.change change⟩

/-! ## Taking over -/

theorem contents_deserializeAs {input : Bytes} (received : c.Receives f input d) :
    (c.deserializeAs input f).1 = .ok () ∧ (c.deserializeAs input f).2.contents = .ok d.values := by
  obtain ⟨small, decoded⟩ := received
  obtain ⟨e, refused⟩ | ⟨e, -, read, taken⟩ := deserializeAs_cases input f c
  · simp only [deserializeAs, checkSize_eq_ok_iff.2 small, decoded] at refused
    cases refused
  · rw [decoded] at read
    cases read
    rw [taken]
    exact ⟨rfl, contents_holdingDocument d _ c⟩

theorem contents_deserialize {input : Bytes}
    (found : Format.detect? input = some f) (received : c.Receives f input d) :
    (c.deserialize input).1 = .ok () ∧ (c.deserialize input).2.contents = .ok d.values := by
  rw [deserialize, found]
  exact contents_deserializeAs received

end Container

namespace Session

variable {s : Session} {f : Format} {d : Document}

/-- What a request for `deserialize` has `offered?` is what `detect?` makes of the input. -/
theorem detect?_of_offered {input content : Bytes}
    (offered : (Request.deserialize input).offered? = some (f, content)) :
    Format.detect? input = some f ∧ content = input := by
  obtain ⟨g, found, same⟩ := Option.map_eq_some_iff.1 offered
  cases same
  exact ⟨found, rfl⟩

/-- What an act `TakesOver` is held as it is. -/
theorem contents_of_takesOver [Memory] {a : Act} (takes : s.TakesOver a f d) :
    (s.step a).2.container.contents = .ok d.values := by
  obtain ⟨input, offered, received⟩ := takes
  cases a with
  | ask r =>
    cases r with
    | deserialize content =>
      obtain ⟨found, rfl⟩ := detect?_of_offered offered
      exact (Container.contents_deserialize found received).2
    | deserializeAs content g =>
      cases offered
      exact (Container.contents_deserializeAs received).2
    | _ => cases offered
  | takeValidated schema content =>
    obtain ⟨found, rfl⟩ := detect?_of_offered offered
    obtain ⟨accepted, held⟩ := Container.contents_deserialize found received
    change (s.container.deserializeValidated schema input).2.contents = _
    rw [Container.deserializeValidated]
    generalize s.container.deserialize input = r at accepted held
    obtain ⟨answer, c⟩ := r
    cases accepted
    -- the values that have been taken over are validated, and stay whatever comes of it
    have looked : (c.validateAll schema).2.contents = .ok d.values := by
      rw [Container.validateAll_access, (Container.kept_access c).contents, held]
    dsimp only
    generalize c.validateAll schema = r at looked
    obtain ⟨violations, c'⟩ := r
    cases violations <;> exact looked
  | load file =>
    obtain ⟨content, read, offered⟩ := Option.bind_eq_some_iff.1 offered
    obtain ⟨found, rfl⟩ := detect?_of_offered offered
    change (s.load file).2.container.contents = _
    rw [Session.load]
    cases stored : s.directory.read file with
    | error e => rw [stored] at read; cases read
    | ok content =>
      rw [stored] at read
      cases read
      exact (Container.contents_deserialize found received).2
  | _ => cases offered

end Session

/-! ## Runs -/

/-- The containers that come about from new ones by acts and copies, where the documents that are
taken over on the way are among some given ones. -/
inductive Container.Grown [Memory] (taken : Format → Document → Prop) : Container → Prop where
  /-- A new container. -/
  | new (policy : Policy) : Grown taken (.new policy)
  /-- A container after an act. -/
  | step {s : Session} (a : Session.Act) (grown : Grown taken s.container)
    (within : ∀ f d, s.TakesOver a f d → taken f d) : Grown taken (s.step a).2.container
  /-- A copy. -/
  | copy {c made : Container} {withValues : Bool} {pool : Pool} (grown : Grown taken c)
    (copied : (c.copy withValues pool).1 = .ok made) : Grown taken made

namespace Container

variable {taken : Format → Document → Prop} {c : Container}

theorem Grown.labelled [Memory] (grown : c.Grown taken)
    (documents : ∀ f d, taken f d → f = .json ∨ f = .msgpack → d.Labelled) :
    c.Labelled ∧ c.Faithful := by
  induction grown with
  | new policy =>
    refine ⟨labelled_of_contents (d := .empty) ?_ rfl, faithful_ofDocument policy .empty⟩
    exact congrArg Except.ok (Store.toList_ofList policy [])
  | @step s a _ within ih =>
    exact ih.1.changes ih.2 ((Session.changes_step a s).mono within) documents
  | @copy c made withValues pool _ copied ih =>
    -- a copy is made by way of the text format
    obtain ⟨s, d, decoded, rfl⟩ := (copy_access withValues c pool).2 made copied
    refine ⟨labelled_of_contents (contents_holdingDocument d none c) ?_, ?_⟩
    · exact labelled_of_decode decoded ⟨nofun, nofun⟩
    · exact ⟨Store.exact_ofList c.policy d.values, nofun⟩

/-- A value whose `name` is empty goes back to a document of `taken` that came as JSON or
MessagePack and has such a value itself. Conversely, whatever document an act `TakesOver`, the
container has its values as they are. -/
theorem Grown.exists_unlabelled_taken [Memory] (grown : c.Grown taken) :
    (∀ values, c.contents = .ok values → ∀ n ∈ values, n.name = "" →
        ∃ f d, taken f d ∧ (f = .json ∨ f = .msgpack) ∧ ∃ m ∈ d.values, m.name = "") ∧
      ∀ s a f d, s.container = c → Session.TakesOver s a f d →
        (s.step a).2.container.contents = .ok d.values := by
  refine ⟨?_, fun s a f d _ => Session.contents_of_takesOver⟩
  intro values held n mem unnamed
  by_contra absent
  have documents : ∀ f d, taken f d → f = .json ∨ f = .msgpack → d.Labelled := by
    intro f d isTaken format
    rw [Document.Labelled, allNamed_iff]
    exact fun m isValue none => absent ⟨f, d, isTaken, format, m, isValue, none⟩
  have labelled := (grown.labelled documents).1 values held
  exact allNamed_iff.1 labelled n mem unnamed

/-- A JSON document whose only value has an empty name. -/
def unnamedMember : Bytes := Utf8.encode "\x7b\x22values\x22:\x7b\x22\x22:1\x7d\x7d"

/-- A session with a new container. -/
def fresh : Session := ⟨.new .linear, .direct 0, .empty ""⟩

open scoped Memory.Plenty

/-- A container that has taken the document over. -/
def unnamed : Container := (fresh.step (.ask (.deserialize unnamedMember))).2.container

theorem grown_unnamed :
    unnamed.Grown fun f d => f = .json ∧ Codec.decode .json unnamedMember = .ok d := by
  have found : Format.detect? unnamedMember = some .json := by decide +kernel
  have new : fresh.container.Grown fun f d =>
      f = .json ∧ Codec.decode .json unnamedMember = .ok d := .new .linear
  refine new.step (.ask (.deserialize unnamedMember)) ?_
  rintro f d ⟨input, offered, received⟩
  replace offered : (Request.deserialize unnamedMember).offered? = some (f, input) := offered
  obtain ⟨same, rfl⟩ := Session.detect?_of_offered offered
  rw [found] at same
  cases same
  exact ⟨rfl, received.decoded⟩

/-- The value of `unnamed` goes back to that document. -/
theorem exists_unlabelled_taken_unnamed :
    ∃ d, Codec.decode .json unnamedMember = .ok d ∧ ∃ m ∈ d.values, m.name = "" := by
  have names : unnamed.contents.map (·.map (·.name)) = .ok [""] := by decide +kernel
  obtain ⟨values, held, same⟩ := Except.exists_of_map_eq_ok names
  obtain ⟨n, mem, name⟩ := List.mem_map.1 (same ▸ List.mem_singleton_self "")
  obtain ⟨f, d, ⟨-, decoded⟩, -, m, isValue, none⟩ :=
    grown_unnamed.exists_unlabelled_taken.1 values held n mem name
  exact ⟨d, decoded, m, isValue, none⟩

/-- The container `unnamed` has come about from a new one, and the only name in it is empty. -/
theorem keys_unnamed : (∃ taken, unnamed.Grown taken) ∧ unnamed.keys.1 = [""] :=
  ⟨⟨_, grown_unnamed⟩, by decide +kernel⟩

end Container

end Parcel
