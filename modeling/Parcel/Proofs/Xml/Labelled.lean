import Parcel.Proofs.Delimited.Accepted

/-!
# Names in XML

A start tag without a name is refused, so every element that is read has a name, and so has every
value of a document, since values are named after their elements.

## Main definitions

* `Xml.Element.Labelled` — an element with a name, with such elements inside

## Main results

* `Xml.labelled_of_within` — what is read from a start tag on
* `Xml.name_ne_of_decode` — the values of a document have names
-/

namespace Parcel.Xml

mutual

/-- The element has a name, and so have all elements inside it. -/
def Element.Labelled : Element → Prop
  | ⟨name, _, children⟩ => name ≠ "" ∧ LabelledAll children

/-- The elements have names, and so have all elements inside them. -/
def LabelledAll : List Element → Prop
  | [] => True
  | e :: rest => e.Labelled ∧ LabelledAll rest

end

variable {e : Element} {es : List Element} {c c' : Cursor} {tag : String} {text : List Char}

theorem labelledAll_iff : LabelledAll es ↔ ∀ e ∈ es, e.Labelled := by
  induction es with
  | nil => exact ⟨nofun, fun _ => trivial⟩
  | cons e rest ih => rw [LabelledAll, ih, List.forall_mem_cons]

theorem Element.Labelled.name_ne (labelled : e.Labelled) : e.name ≠ "" := by
  obtain ⟨name, text, children⟩ := e
  exact labelled.1

theorem Element.Labelled.children (labelled : e.Labelled) : LabelledAll e.children := by
  obtain ⟨name, text, children⟩ := e
  exact labelled.2

/-! ## Reading -/

theorem ne_of_name (read : name c = .ok (tag, c')) : tag ≠ "" := by
  rw [name] at read
  split at read
  · cases read
  · next some =>
    cases read
    rw [Ne, ← String.toList_inj, String.toList_ofList]
    exact fun none => some (by rw [none]; rfl)

theorem ne_of_startTag {isEmpty : Bool} (read : startTag c = .ok (tag, isEmpty, c')) :
    tag ≠ "" := by
  rw [startTag] at read
  cases opened : c.eat? ['<'] with
  | none => rw [opened] at read; cases read
  | some d =>
    rw [opened] at read
    obtain ⟨⟨found, d⟩, named, rest⟩ := Except.exists_of_bind_eq_ok read
    dsimp only at rest
    cases closes : d.upTo? ['>'] with
    | none => rw [closes] at rest; cases rest
    | some p =>
      rw [closes] at rest
      cases rest
      exact ne_of_name named

/-- An element that has ended is named after its start tag, so it is `Labelled` when its children
are. -/
theorem labelled_closed (named : tag ≠ "") (children : LabelledAll es) :
    (closed tag text es).Labelled := by
  refine ⟨named, ?_⟩
  rw [labelledAll_iff] at children ⊢
  exact fun e mem => children e (List.mem_reverse.1 mem)

/-- Both readers at once, by induction on `fuel`, since each of them calls the other one with less
allowance. -/
theorem labelled_of_within (fuel : Nat) :
    (∀ depth c e c', elementWithin fuel depth c = .ok (e, c') → e.Labelled) ∧
      ∀ depth tag text es c e c', tag ≠ "" → LabelledAll es →
        contentWithin fuel depth tag text es c = .ok (e, c') → e.Labelled := by
  induction fuel with
  | zero =>
    refine ⟨?_, ?_⟩
    · intro depth c e c' read
      cases read
    · intro depth tag text es c e c' named children read
      cases read
  | succ fuel ih =>
    obtain ⟨element, content⟩ := ih
    refine ⟨?_, ?_⟩
    · intro depth c e c' read
      rw [elementWithin] at read
      split at read
      · cases read
      · obtain ⟨⟨tag, isEmpty, d⟩, opened, rest⟩ := Except.exists_of_bind_eq_ok read
        have named := ne_of_startTag opened
        dsimp only at rest
        split at rest
        · cases rest
          exact ⟨named, trivial⟩
        · exact content depth tag [] [] d e c' named trivial rest
    · intro depth tag text es c e c' named children read
      rw [contentWithin] at read
      split at read
      · cases read
      · -- the end tag
        obtain ⟨d, -, finish⟩ := Except.exists_of_bind_eq_ok read
        cases finish
        exact labelled_closed named children
      · split at read
        · obtain ⟨d, -, rest⟩ := Except.exists_of_bind_eq_ok read
          exact content _ _ _ _ _ _ _ named children rest
        · split at read
          · split at read
            · cases read
            · exact content _ _ _ _ _ _ _ named children read
          · obtain ⟨⟨child, d⟩, inner, rest⟩ := Except.exists_of_bind_eq_ok read
            have labelled := element (depth + 1) _ child d inner
            exact content depth tag text (child :: es) d e c' named ⟨labelled, children⟩ rest
      · obtain ⟨more, -, rest⟩ := Except.exists_of_bind_eq_ok read
        exact content _ _ _ _ _ _ _ named children rest

theorem labelled_of_parseText {cs : List Char} {root : Element}
    (parsed : parseText cs = .ok root) : root.Labelled := by
  obtain ⟨start, -, rest⟩ := Except.exists_of_bind_eq_ok parsed
  obtain ⟨⟨found, last⟩, read, rest⟩ := Except.exists_of_bind_eq_ok rest
  obtain ⟨finish, -, rest⟩ := Except.exists_of_bind_eq_ok rest
  split at rest
  · cases rest
    exact (labelled_of_within _).1 _ _ _ _ read
  · cases rest

/-! ## Values -/

/-- Values are named after their elements. -/
theorem name_ne_of_namedOf {depth : Nat} {values : List Named} (labelled : LabelledAll es)
    (read : namedOf depth es = .ok values) : ∀ n ∈ values, n.name ≠ "" := by
  induction es generalizing values with
  | nil =>
    cases read
    nofun
  | cons e rest ih =>
    obtain ⟨name, text, children⟩ := e
    rw [namedOf] at read
    obtain ⟨v, -, further⟩ := Except.exists_of_bind_eq_ok read
    obtain ⟨others, following, finish⟩ := Except.exists_of_bind_eq_ok further
    cases finish
    rw [List.forall_mem_cons]
    exact ⟨labelled.1.name_ne, ih labelled.2 following⟩

theorem name_ne_of_valuesAmong {depth : Nat} {values : List Named} (labelled : LabelledAll es)
    (read : valuesAmong depth es = .ok values) : ∀ n ∈ values, n.name ≠ "" := by
  induction es with
  | nil =>
    cases read
    nofun
  | cons e rest ih =>
    obtain ⟨name, text, children⟩ := e
    rw [valuesAmong] at read
    split at read
    · exact name_ne_of_namedOf labelled.1.children read
    · exact ih labelled.2 read

/-- The values of a document have names. -/
theorem name_ne_of_decode {s : Bytes} {d : Document} (decoded : decode s = .ok d) :
    ∀ n ∈ d.values, n.name ≠ "" := by
  obtain ⟨root, parsed, described⟩ := Except.exists_of_bind_eq_ok decoded
  obtain ⟨cs, -, parsed⟩ := Except.exists_of_bind_eq_ok parsed
  have labelled := labelled_of_parseText parsed
  obtain ⟨name, text, children⟩ := root
  rw [documentOf] at described
  split at described
  · cases described
  · split at described
    · cases described
    · obtain ⟨values, read, same⟩ := Except.exists_of_map_eq_ok described
      rw [← same]
      exact name_ne_of_valuesAmong labelled.children read

end Parcel.Xml
