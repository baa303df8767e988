import Parcel.Format
import Parcel.Proofs.Unicode.Utf8
import Parcel.Proofs.Xml.Text
import Parcel.Xml.Writer

/-!
# XML elements read back

An element is written as its start tag, its text, its children and its end tag, with no white space
between them. Reading gives the element back, unless it is nested too deeply. Where it ended is of
no interest here, so offsets are left open.

## Main definitions

* `Xml.Element.write` — the text of an element
* `Xml.Element.Proper` — an element with names that can be written, and text or children
* `Xml.Element.height` — how many levels of elements are inside an element

## Main results

* `Xml.elementWithin_write`, `Xml.parse_write` — elements read back
-/

namespace Parcel.Xml

/-! ## Elements -/

mutual

/-- The text of an element. -/
def Element.write : Element → List Char
  | ⟨name, text, children⟩ => wrapped name.toList (escape text.toList ++ writeAll children)

/-- The text of elements one after the other. -/
def writeAll : List Element → List Char
  | [] => []
  | e :: rest => e.write ++ writeAll rest

end

mutual

/-- Names that can be written, and text only where there are no children. -/
def Element.Proper : Element → Prop
  | ⟨name, text, children⟩ =>
    isName name.toList ∧ (children = [] ∨ text = "") ∧ ProperAll children

/-- Elements with names that can be written, and text only where there are no children. -/
def ProperAll : List Element → Prop
  | [] => True
  | e :: rest => e.Proper ∧ ProperAll rest

end

mutual

instance Element.decidableProper : (e : Element) → Decidable e.Proper
  | ⟨name, text, children⟩ =>
    have := decidableProperAll children
    inferInstanceAs (Decidable (isName name.toList ∧ (children = [] ∨ text = "") ∧ _))

instance decidableProperAll : (es : List Element) → Decidable (ProperAll es)
  | [] => .isTrue trivial
  | e :: rest =>
    have := e.decidableProper
    have := decidableProperAll rest
    inferInstanceAs (Decidable (_ ∧ _))

end

mutual

/-- How many levels of elements are inside an element. -/
def Element.height : Element → Nat
  | ⟨_, _, children⟩ => heightAll children

/-- How many levels some elements take. -/
def heightAll : List Element → Nat
  | [] => 0
  | e :: rest => max (e.height + 1) (heightAll rest)

end

/-! ## Tags -/

section Tags

variable {tag : List Char} {o : Nat} {y : List Char}

/-- A name ends at the first character that cannot continue it. -/
theorem name_append (valid : isName tag) (o : Nat) (y : List Char) :
    ∃ o', name ⟨o, tag ++ '>' :: y⟩ = .ok (String.ofList tag, ⟨o', '>' :: y⟩) := by
  obtain ⟨nonempty, continues⟩ := continuesName_of_isName valid
  have inside : ∀ c ∈ tag, (!endsName c) = true := fun c mem => by
    rw [endsName_of_continuesName (continues c mem)]
    rfl
  have taken : (tag ++ '>' :: y).takeWhile (!endsName ·) = tag := by
    rw [List.takeWhile_append_of_pos inside, List.takeWhile_cons_of_neg (by decide),
      List.append_nil]
  have left : (tag ++ '>' :: y).dropWhile (!endsName ·) = '>' :: y := by
    rw [List.dropWhile_append_of_pos inside, List.dropWhile_cons_of_neg (by decide)]
  have some : tag.isEmpty = false := by simpa using nonempty
  simp only [name, taken, left, some]
  exact ⟨_, rfl⟩

theorem startTag_append (valid : isName tag) (o : Nat) (y : List Char) :
    ∃ o', startTag ⟨o, '<' :: (tag ++ '>' :: y)⟩ = .ok (String.ofList tag, false, ⟨o', y⟩) := by
  obtain ⟨o', read⟩ := name_append valid (o + byteLength ['<']) y
  have opened : Cursor.eat? ['<'] ⟨o, '<' :: (tag ++ '>' :: y)⟩ =
      some ⟨o + byteLength ['<'], tag ++ '>' :: y⟩ := rfl
  have closed : Cursor.upTo? ['>'] ⟨o', '>' :: y⟩ = some ([], ⟨o' + byteLength ['>'], y⟩) := rfl
  refine ⟨o' + byteLength ['>'], ?_⟩
  simp only [startTag, opened, read, bind, Except.bind, closed]
  rfl

theorem skipBlanks_cons {a : Char} (visible : Unicode.isBlank a = false) (o : Nat)
    (cs : List Char) : Cursor.skipBlanks ⟨o, a :: cs⟩ = ⟨o, a :: cs⟩ := by
  simp [Cursor.skipBlanks, Cursor.after, visible, byteLength]

theorem endTag_append (valid : isName tag) (o : Nat) (y : List Char) :
    ∃ o', endTag (String.ofList tag) ⟨o, tag ++ '>' :: y⟩ = .ok ⟨o', y⟩ := by
  obtain ⟨o', read⟩ := name_append valid o y
  have here : Cursor.skipBlanks ⟨o', '>' :: y⟩ = ⟨o', '>' :: y⟩ := skipBlanks_cons (by decide) o' y
  have eaten : Cursor.eat? ['>'] ⟨o', '>' :: y⟩ = some ⟨o' + byteLength ['>'], y⟩ := rfl
  refine ⟨o' + byteLength ['>'], ?_⟩
  simp only [endTag, read, bind, Except.bind, ne_eq, not_true_eq_false, if_false, here, eaten]
  rfl

end Tags

/-! ## Content -/

section Content

variable {name : String}

/-- An element ends with its end tag. -/
theorem contentWithin_end (valid : isName name.toList) (fuel depth : Nat) (text : List Char)
    (children : List Element) (o : Nat) (y : List Char) :
    ∃ o', contentWithin (fuel + 1) depth name text children
        ⟨o, '<' :: '/' :: (name.toList ++ '>' :: y)⟩ =
          .ok (closed name text children, ⟨o', y⟩) := by
  obtain ⟨o', read⟩ := endTag_append valid (o + byteLength ['<', '/']) y
  rw [String.ofList_toList] at read
  refine ⟨o', ?_⟩
  rw [contentWithin]
  simp only [Cursor.after, read, bind, Except.bind]
  rfl

/-- Text goes on to the next opening angle bracket. -/
theorem contentWithin_text {cs : List Char} (nonempty : cs ≠ []) (fuel depth : Nat)
    (name : String) (text : List Char) (children : List Element) (o : Nat) (y : List Char) :
    ∃ o', contentWithin (fuel + 1) depth name text children ⟨o, escape cs ++ '<' :: y⟩ =
      contentWithin fuel depth name (text ++ cs) children ⟨o', '<' :: y⟩ := by
  have inside : ∀ c ∈ escape cs, (c != '<') = true := fun c mem => by
    simpa using ne_of_mem_escape mem
  have taken : (escape cs ++ '<' :: y).takeWhile (· != '<') = escape cs := by
    rw [List.takeWhile_append_of_pos inside, List.takeWhile_cons_of_neg (by decide),
      List.append_nil]
  have left : (escape cs ++ '<' :: y).dropWhile (· != '<') = '<' :: y := by
    rw [List.dropWhile_append_of_pos inside, List.dropWhile_cons_of_neg (by decide)]
  obtain ⟨d, rest, eq⟩ := List.exists_cons_of_ne_nil (escape_ne_nil nonempty)
  have other : d ≠ '<' := ne_of_mem_escape (eq ▸ List.mem_cons_self)
  have value : unescape (d :: rest) = .ok cs := eq ▸ unescape_escape cs
  rw [eq, List.cons_append] at taken left
  refine ⟨o + byteLength (d :: rest), ?_⟩
  rw [contentWithin, eq, List.cons_append]
  -- the text starts with no angle bracket, so it is neither a tag nor a comment
  split
  · next empty => cases empty
  · next opens => exact absurd (List.cons.inj opens).1 other
  · next opens => exact absurd (List.cons.inj opens).1 other
  · simp only [taken, left, value]
    rfl

/-- The text of an element opens a start tag, and nothing else. -/
theorem Element.exists_write_eq {e : Element} (proper : e.Proper) :
    ∃ c rest, e.write = '<' :: c :: rest ∧ c ≠ '/' ∧ c ≠ '!' ∧ c ≠ '?' := by
  obtain ⟨name, text, children⟩ := e
  obtain ⟨nonempty, continues⟩ := continuesName_of_isName proper.1
  obtain ⟨c, rest, eq⟩ := List.exists_cons_of_ne_nil nonempty
  obtain ⟨-, -, slash, -, marks⟩ := continuesName_cases (continues c (eq ▸ List.mem_cons_self))
  rw [Element.write, wrapped, eq]
  exact ⟨c, _, rfl, slash, marks⟩

theorem Element.length_write_pos {e : Element} (proper : e.Proper) : 0 < e.write.length := by
  obtain ⟨c, rest, eq, -⟩ := Element.exists_write_eq proper
  rw [eq]
  exact Nat.succ_pos _

/-- A child that is `Proper` is read as an element one level further in. -/
theorem contentWithin_child {e : Element} (proper : e.Proper) (fuel depth : Nat) (name : String)
    (text : List Char) (children : List Element) (o : Nat) (y : List Char) :
    contentWithin (fuel + 1) depth name text children ⟨o, e.write ++ y⟩ =
      (elementWithin fuel (depth + 1) ⟨o, e.write ++ y⟩).bind fun p =>
        contentWithin fuel depth name text (p.1 :: children) p.2 := by
  obtain ⟨c, rest, eq, slash, mark, -⟩ := Element.exists_write_eq proper
  rw [eq, List.cons_append, List.cons_append, contentWithin]
  split
  · next empty => cases empty
  · next closes => exact absurd (List.cons.inj (List.cons.inj closes).2).1 slash
  · next opens =>
    -- the second character is one of a name, so no comment and no section starts here
    obtain rfl := (List.cons.inj opens).2
    have comment : commentStart.isPrefixOf ('<' :: c :: (rest ++ y)) = false := by
      simp [commentStart, List.isPrefixOf, mark.symm]
    have noSection : Cursor.eat? sectionStart ⟨o, '<' :: c :: (rest ++ y)⟩ = none := by
      have other : ('!' == c) = false := beq_eq_false_iff_ne.2 mark.symm
      change (if '!' == c then _ else none).map _ = none
      rw [other]
      rfl
    simp only [comment, noSection]
    rfl
  · next other => exact absurd rfl (other _)

end Content

theorem wrapped_append (tag content y : List Char) :
    wrapped tag content ++ y =
      '<' :: (tag ++ '>' :: (content ++ '<' :: '/' :: (tag ++ '>' :: y))) := by
  simp [wrapped]

theorem length_wrapped (tag content : List Char) :
    (wrapped tag content).length = content.length + 2 * tag.length + 5 := by
  simp [wrapped]
  omega

/-- White space is only taken out of text that stands around children. -/
theorem closed_eq (name : String) (text : List Char) (children : List Element)
    (alone : children = [] ∨ text = []) :
    closed name text children = ⟨name, String.ofList text, children.reverse⟩ := by
  unfold closed
  rcases alone with rfl | rfl
  · rfl
  · rw [ite_self]

/-- The text of an element without children is read up to its end tag. -/
theorem contentWithin_leaf {name : String} (valid : isName name.toList) (text : String)
    (fuel depth o : Nat) (y : List Char) :
    ∃ o', contentWithin (fuel + 2) depth name [] []
        ⟨o, escape text.toList ++ '<' :: '/' :: (name.toList ++ '>' :: y)⟩ =
      .ok (⟨name, text, []⟩, ⟨o', y⟩) := by
  by_cases empty : text = ""
  · subst empty
    obtain ⟨o', read⟩ := contentWithin_end valid (fuel + 1) depth [] [] o y
    rw [closed_eq name [] [] (.inl rfl)] at read
    exact ⟨o', read⟩
  · have nonempty : text.toList ≠ [] := fun none => empty (String.toList_eq_nil_iff.1 none)
    obtain ⟨o', step⟩ := contentWithin_text nonempty (fuel + 1) depth name [] [] o
      ('/' :: (name.toList ++ '>' :: y))
    obtain ⟨o'', read⟩ := contentWithin_end valid fuel depth ([] ++ text.toList) [] o' y
    rw [closed_eq name _ [] (.inl rfl), List.nil_append, String.ofList_toList] at read
    exact ⟨o'', step.trans read⟩

/-- What reading the written element `e` comes to: the element, unless it is nested too deeply. -/
structure Reads (e : Element) (y : List Char) (shallow : Prop)
    (result : Except Fault (Element × Cursor)) : Prop where
  ok : shallow → ∃ o, result = .ok (e, ⟨o, y⟩)
  error : ¬shallow → ∃ o, result = .error (.malformed o .shallower)

mutual

/-- A written element that is `Proper` reads back, unless it is nested beyond `elementDepthLimit`.
-/
theorem elementWithin_write : (e : Element) → e.Proper → ∀ (fuel depth o : Nat) (y : List Char),
    e.write.length ≤ fuel → Reads e y (depth + e.height ≤ elementDepthLimit)
      (elementWithin fuel depth ⟨o, e.write ++ y⟩)
  | ⟨name, text, children⟩, ⟨valid, alone, proper⟩, fuel, depth, o, y, enough => by
    rw [Element.write, length_wrapped, List.length_append] at enough
    obtain ⟨fuel, rfl⟩ : ∃ k, fuel = k + 3 := ⟨fuel - 3, by omega⟩
    rw [Element.write, wrapped_append, elementWithin, Element.height]
    by_cases deep : elementDepthLimit < depth
    · rw [if_pos deep]
      exact ⟨fun shallow => by omega, fun _ => ⟨o, rfl⟩⟩
    obtain ⟨o', opened⟩ := startTag_append valid o
      (escape text.toList ++ writeAll children ++ '<' :: '/' :: (name.toList ++ '>' :: y))
    rw [String.ofList_toList] at opened
    simp only [if_neg deep, opened, bind, Except.bind]
    cases children with
    | nil =>
      rw [writeAll, List.append_nil]
      refine ⟨fun _ => contentWithin_leaf valid text fuel depth o' y, fun below => ?_⟩
      exact absurd (Nat.le_of_not_lt deep) below
    | cons child rest =>
      -- around children there is no text that white space could be taken out of
      obtain rfl : text = "" := alone.resolve_left (List.cons_ne_nil _ _)
      exact contentWithin_writeAll (child :: rest) proper name valid (fuel + 2) depth [] o' y
        (by omega) (Nat.le_of_not_lt deep)

/-- Children that are `Proper` are read one after the other. -/
theorem contentWithin_writeAll : (es : List Element) → ProperAll es → ∀ (name : String),
    isName name.toList → ∀ (fuel depth : Nat) (done : List Element) (o : Nat) (y : List Char),
      (writeAll es).length < fuel → depth ≤ elementDepthLimit →
        Reads ⟨name, "", done.reverse ++ es⟩ y (depth + heightAll es ≤ elementDepthLimit)
          (contentWithin fuel depth name [] done
            ⟨o, writeAll es ++ '<' :: '/' :: (name.toList ++ '>' :: y)⟩)
  | [], _, name, valid, fuel, depth, done, o, y, enough, here => by
    obtain ⟨fuel, rfl⟩ := Nat.exists_eq_add_one.2 (by omega : 0 < fuel)
    obtain ⟨o', read⟩ := contentWithin_end valid fuel depth [] done o y
    rw [closed_eq name [] done (.inr rfl)] at read
    rw [List.append_nil]
    exact ⟨fun _ => ⟨o', read⟩, fun below => absurd here below⟩
  | e :: es, ⟨first, others⟩, name, valid, fuel, depth, done, o, y, enough, here => by
    rw [writeAll, List.length_append] at enough
    have opened := e.length_write_pos first
    obtain ⟨fuel, rfl⟩ := Nat.exists_eq_add_one.2 (by omega : 0 < fuel)
    have child := elementWithin_write e first fuel (depth + 1) o
      (writeAll es ++ '<' :: '/' :: (name.toList ++ '>' :: y)) (by omega)
    rw [writeAll, List.append_assoc, contentWithin_child first, heightAll]
    by_cases shallow : depth + 1 + e.height ≤ elementDepthLimit
    · -- this child is read, so the ones behind it decide
      obtain ⟨o', read⟩ := child.ok shallow
      have rest := contentWithin_writeAll es others name valid fuel depth (e :: done) o' y
        (by omega) here
      rw [List.reverse_cons, List.append_assoc] at rest
      rw [read]
      exact ⟨fun all => rest.ok (by omega), fun below => rest.error (by omega)⟩
    · -- the refusal of this child is the refusal of all
      obtain ⟨o', read⟩ := child.error shallow
      rw [read]
      exact ⟨fun all => by omega, fun _ => ⟨o', rfl⟩⟩

end

/-! ## Inputs -/

/-- Nothing in front of an element is skipped. -/
theorem skipMisc_eq {c : Cursor} (visible : c.skipBlanks = c)
    (comment : commentStart.isPrefixOf c.rest = false)
    (instruction : instructionStart.isPrefixOf c.rest = false) : skipMisc c = .ok c := by
  simp [skipMisc, skipMiscWithin, visible, comment, instruction]

/-- A bracket that opens no comment, instruction or document type is not skipped. -/
theorem skipProlog_opening {cs : List Char} (first : ∀ a ∈ cs.head?, a ≠ '!' ∧ a ≠ '?') (o : Nat) :
    skipProlog ⟨o, '<' :: cs⟩ = .ok ⟨o, '<' :: cs⟩ := by
  have absent (mark : List Char) {b : Char} (second : b = '!' ∨ b = '?') :
      ('<' :: b :: mark).isPrefixOf ('<' :: cs) = false := by
    cases cs with
    | nil => rfl
    | cons a cs =>
      obtain ⟨exclaims, asks⟩ := first a rfl
      have other : (b == a) = false := by
        rw [beq_eq_false_iff_ne]
        rcases second with rfl | rfl
        · exact exclaims.symm
        · exact asks.symm
      simp [List.isPrefixOf, other]
  have skipped : skipMisc ⟨o, '<' :: cs⟩ = .ok ⟨o, '<' :: cs⟩ :=
    skipMisc_eq (skipBlanks_cons (by decide) o cs) (absent _ (.inl rfl)) (absent _ (.inr rfl))
  have noType : doctypeStart.isPrefixOf ('<' :: cs) = false := absent _ (.inl rfl)
  rw [skipProlog, skipped]
  simp only [bind, Except.bind, noType]
  rfl

theorem skipProlog_write {e : Element} (proper : e.Proper) (o : Nat) (y : List Char) :
    skipProlog ⟨o, e.write ++ y⟩ = .ok ⟨o, e.write ++ y⟩ := by
  obtain ⟨c, rest, eq, -, mark, question⟩ := Element.exists_write_eq proper
  rw [eq]
  refine skipProlog_opening ?_ o
  rintro _ ⟨⟩
  exact ⟨mark, question⟩

/-- What is read from the bytes of a text in front of whose element nothing is skipped. -/
theorem parse_encodeChars {cs : List Char} (prolog : skipProlog ⟨0, cs⟩ = .ok ⟨0, cs⟩) :
    parse (Utf8.encodeChars cs) =
      (elementWithin (2 * cs.length + 2) 0 ⟨0, cs⟩).bind fun p =>
        (skipMisc p.2).bind fun c =>
          if c.rest.isEmpty then .ok p.1 else .error (c.fault .finish) := by
  rw [parse, Utf8.decodeChars_encodeChars]
  change parseText cs = _
  rw [parseText, prolog]
  rfl

/-- A written element is what its bytes hold, unless it is nested beyond `elementDepthLimit`. -/
theorem parse_write {e : Element} (proper : e.Proper) :
    (e.height ≤ elementDepthLimit → parse (Utf8.encodeChars e.write) = .ok e) ∧
      (elementDepthLimit < e.height →
        ∃ o, parse (Utf8.encodeChars e.write) = .error (.malformed o .shallower)) := by
  have reads := elementWithin_write e proper (2 * e.write.length + 2) 0 0 [] (by omega)
  rw [List.append_nil, Nat.zero_add] at reads
  have prolog := skipProlog_write proper 0 []
  rw [List.append_nil] at prolog
  rw [parse_encodeChars prolog]
  constructor
  · intro shallow
    obtain ⟨o, read⟩ := reads.ok shallow
    have finished : skipMisc ⟨o, []⟩ = .ok ⟨o, []⟩ := skipMisc_eq rfl rfl rfl
    rw [read]
    simp only [Except.bind, finished]
    rfl
  · intro deep
    obtain ⟨o, read⟩ := reads.error (Nat.not_le.2 deep)
    rw [read]
    exact ⟨o, rfl⟩

/-- A written element is recognised by its first character. -/
theorem detect?_write {e : Element} (proper : e.Proper) :
    Format.detect? (Utf8.encodeChars e.write) = some .xml := by
  obtain ⟨c, rest, eq, -⟩ := Element.exists_write_eq proper
  rw [eq]
  rfl

end Parcel.Xml
