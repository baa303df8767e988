import Mathlib.Data.List.Infix
import Parcel.Proofs.Delimited.Accepted
import Parcel.Proofs.Outcome
import Parcel.Proofs.Xml.Parser

/-!
# XML with more characters behind it

An element ends with the bracket of its end tag, so a reader never looks behind the element it
reads. What it has read from some characters it reads from a longer text as well, and the additional
characters are left. The start of a comment or of a section could be cut in two by the end of the
shorter text, but then there is no closing bracket left to read a tag up to. So the text of an
element is not cut short anywhere.

## Main definitions

* `Xml.Cursor.before` — a place in a longer text
* `Xml.ReadsOn` — what holds of the readers of elements and their content at once

## Main results

* `Xml.readsOn` — more characters are left
* `Xml.eq_nil_of_parse` — the first part of the text of an element holds no element
* `Xml.exists_parse_append` — nothing may follow the text of an element
-/

namespace Parcel.Xml

/-- The same place in a text that goes on with `y`. -/
def Cursor.before (y : List Char) (c : Cursor) : Cursor := ⟨c.offset, c.rest ++ y⟩

/-- A result with the place after it in a text that goes on with `y`. -/
def leaving {α : Type} (y : List Char) (p : α × Cursor) : α × Cursor := (p.1, p.2.before y)

variable {c d : Cursor} {mark cs y : List Char}

/-! ## Marks -/

theorem eat?_extends (eaten : c.eat? mark = some d) (y : List Char) :
    (c.before y).eat? mark = some (d.before y) := by
  obtain ⟨left, here, rfl⟩ := Option.map_eq_some_iff.1 eaten
  have longer : mark.isPrefixOf? (c.rest ++ y) = some (left ++ y) := by
    rw [List.isPrefixOf?_eq_some_iff_append_eq] at here ⊢
    rw [← here, List.append_assoc]
  change (mark.isPrefixOf? (c.rest ++ y)).map _ = _
  rw [longer]
  rfl

theorem eat?_eq_none_iff : c.eat? mark = none ↔ ¬mark <+: c.rest := by
  rw [Cursor.eat?, Option.map_eq_none_iff, Option.eq_none_iff_forall_ne_some]
  constructor
  · rintro none ⟨left, here⟩
    exact none left (List.isPrefixOf?_eq_some_iff_append_eq.2 here)
  · intro absent left here
    exact absent ⟨left, List.isPrefixOf?_eq_some_iff_append_eq.1 here⟩

/-- A `mark` that does not stand here does not come about when the text goes on, if the text has a
character that the mark does not have. -/
theorem not_prefix_append {a : Char} (absent : ¬mark <+: cs) (mem : a ∈ cs) (other : a ∉ mark)
    (y : List Char) : ¬mark <+: cs ++ y := by
  intro stands
  rcases List.prefix_or_prefix_of_prefix stands (List.prefix_append cs y) with inside | around
  · exact absent inside
  · exact other (around.subset mem)

/-- A mark is found where it stands. -/
theorem isInfix_of_splitAtFrom {done : List Char} {p : List Char × List Char}
    (found : splitAtFrom mark done cs = some p) : mark <:+: cs := by
  induction cs generalizing done with
  | nil =>
    rw [splitAtFrom] at found
    split at found
    · next empty =>
      rw [List.isEmpty_iff.1 empty]
    · cases found
  | cons a cs ih =>
    rw [splitAtFrom] at found
    split at found
    · next left here =>
      have stands : mark <+: a :: cs := ⟨left, List.isPrefixOf?_eq_some_iff_append_eq.1 here⟩
      exact stands.isInfix
    · exact List.infix_cons (ih found)

/-- A `mark` that stands further on does not stand earlier in a longer text either. -/
theorem splitAtFrom_extends {done before after : List Char}
    (found : splitAtFrom mark done cs = some (before, after)) (y : List Char) :
    splitAtFrom mark done (cs ++ y) = some (before, after ++ y) := by
  induction cs generalizing done with
  | nil =>
    rw [splitAtFrom] at found
    split at found
    · next empty =>
      cases found
      obtain rfl := List.isEmpty_iff.1 empty
      cases y <;> rfl
    · cases found
  | cons a cs ih =>
    rw [splitAtFrom] at found
    rw [List.cons_append, splitAtFrom]
    split at found
    · next left here =>
      cases found
      have longer : mark.isPrefixOf? (a :: (cs ++ y)) = some (after ++ y) := by
        rw [List.isPrefixOf?_eq_some_iff_append_eq] at here ⊢
        rw [← List.cons_append, ← here, List.append_assoc]
      rw [longer]
    · next absent =>
      have long : mark.length ≤ (a :: cs).length :=
        Nat.le_succ_of_le (isInfix_of_splitAtFrom found).length_le
      have longer : mark.isPrefixOf? (a :: (cs ++ y)) = none := by
        rw [Option.eq_none_iff_forall_ne_some] at absent ⊢
        intro left here
        -- the mark is no longer than `a :: cs`, so it would stand there without `y`
        have stands : mark <+: a :: cs ++ y :=
          ⟨left, List.isPrefixOf?_eq_some_iff_append_eq.1 here⟩
        obtain ⟨left, here⟩ :=
          List.prefix_of_prefix_length_le stands (List.prefix_append (a :: cs) y) long
        exact absent left (List.isPrefixOf?_eq_some_iff_append_eq.2 here)
      rw [longer]
      exact ih found

theorem upTo?_extends {p : List Char × Cursor} (found : c.upTo? mark = some p) (y : List Char) :
    (c.before y).upTo? mark = some (leaving y p) := by
  obtain ⟨q, split, rfl⟩ := Option.map_eq_some_iff.1 found
  change (splitAtFrom mark [] (c.rest ++ y)).map _ = _
  rw [splitAtFrom_extends split y]
  rfl

theorem subset_of_upTo? {p : List Char × Cursor} (found : c.upTo? mark = some p) :
    mark ⊆ c.rest := by
  obtain ⟨q, split, -⟩ := Option.map_eq_some_iff.1 found
  exact (isInfix_of_splitAtFrom split).subset

theorem past_extends (c : Cursor) (mark y : List Char) :
    Extends (Cursor.before y) (c.past mark) ((c.before y).past mark) := by
  unfold Cursor.past
  split
  · next found =>
    rw [upTo?_extends found y]
    exact .ok _
  · exact .error _

/-! ## Runs of characters -/

/-- A `run` of characters that ends in a text ends there when the text goes on. -/
theorem span_append {run : Char → Bool} (ends : cs.dropWhile run ≠ []) (y : List Char) :
    (cs ++ y).takeWhile run = cs.takeWhile run ∧
      (cs ++ y).dropWhile run = cs.dropWhile run ++ y := by
  induction cs with
  | nil => exact absurd rfl ends
  | cons a cs ih =>
    cases continues : run a with
    | false => simp [continues]
    | true =>
      rw [List.dropWhile_cons_of_pos continues] at ends
      simp [continues, ih ends]

theorem skipBlanks_before (ends : c.skipBlanks.rest ≠ []) (y : List Char) :
    (c.before y).skipBlanks = c.skipBlanks.before y := by
  obtain ⟨taken, left⟩ := span_append ends y
  rw [Cursor.skipBlanks, Cursor.before, taken, left]
  rfl

theorem name_extends {tag : String} (read : name c = .ok (tag, d)) (ends : d.rest ≠ [])
    (y : List Char) : name (c.before y) = .ok (tag, d.before y) := by
  unfold name at read ⊢
  dsimp only at read ⊢
  split at read
  · cases read
  · next some =>
    cases read
    obtain ⟨taken, left⟩ := span_append ends y
    rw [Cursor.before, taken, left, if_neg some]
    rfl

/-! ## Tags -/

theorem rest_eq_of_eat? (eaten : c.eat? mark = some d) : c.rest = mark ++ d.rest := by
  obtain ⟨left, here, rfl⟩ := Option.map_eq_some_iff.1 eaten
  exact (List.isPrefixOf?_eq_some_iff_append_eq.1 here).symm

theorem subset_of_name {tag : String} (read : name c = .ok (tag, d)) : d.rest ⊆ c.rest := by
  unfold name at read
  dsimp only at read
  split at read
  · cases read
  · cases read
    exact (List.dropWhile_suffix _).subset

/-- A start tag goes up to a closing bracket. -/
theorem startTag_extends {r : String × Bool × Cursor} (read : startTag c = .ok r) (y : List Char) :
    startTag (c.before y) = .ok (r.1, r.2.1, r.2.2.before y) ∧ '>' ∈ c.rest := by
  unfold startTag at read ⊢
  cases opened : c.eat? ['<'] with
  | none =>
    rw [opened] at read
    cases read
  | some d =>
    rw [opened] at read
    obtain ⟨⟨tag, e⟩, named, read⟩ := Except.exists_of_bind_eq_ok read
    dsimp only at read
    cases closes : e.upTo? ['>'] with
    | none =>
      rw [closes] at read
      cases read
    | some p =>
      rw [closes] at read
      cases read
      have bracket : '>' ∈ e.rest := subset_of_upTo? closes (List.mem_singleton_self _)
      refine ⟨?_, ?_⟩
      · rw [eat?_extends opened y]
        simp only [name_extends named (List.ne_nil_of_mem bracket) y, bind, Except.bind,
          upTo?_extends closes y]
        rfl
      · rw [rest_eq_of_eat? opened]
        exact List.mem_append_right _ (subset_of_name named bracket)

theorem endTag_extends {tag : String} (read : endTag tag c = .ok d) (y : List Char) :
    endTag tag (c.before y) = .ok (d.before y) := by
  unfold endTag at read ⊢
  obtain ⟨⟨found, e⟩, named, read⟩ := Except.exists_of_bind_eq_ok read
  dsimp only at read
  split at read
  · cases read
  · next same =>
    cases closes : e.skipBlanks.eat? ['>'] with
    | none =>
      rw [closes] at read
      cases read
    | some f =>
      rw [closes] at read
      cases read
      have ends : e.skipBlanks.rest ≠ [] := by
        rw [rest_eq_of_eat? closes]
        exact List.cons_ne_nil _ _
      have follows : e.rest ≠ [] := by
        intro none
        rw [Cursor.skipBlanks, none] at ends
        exact ends rfl
      simp only [name_extends named follows y, bind, Except.bind, if_neg same,
        skipBlanks_before ends y, eat?_extends closes y]
      rfl

/-! ## Elements -/

/-- The readers with this allowance read on: with at least as much, they give the same from a longer
text. -/
structure ReadsOn (fuel : Nat) : Prop where
  element : ∀ {more}, fuel ≤ more → ∀ depth c y, Extends (leaving y)
    (elementWithin fuel depth c) (elementWithin more depth (c.before y))
  content : ∀ {more}, fuel ≤ more → ∀ depth name text children c y, Extends (leaving y)
    (contentWithin fuel depth name text children c)
    (contentWithin more depth name text children (c.before y))

/-- An element has a closing bracket. -/
theorem mem_of_elementWithin {fuel depth : Nat} {r : Element × Cursor}
    (read : elementWithin fuel depth c = .ok r) : '>' ∈ c.rest := by
  cases fuel with
  | zero => 
    rw [elementWithin] at read
    cases read
  | succ fuel =>
    rw [elementWithin] at read
    split at read
    · cases read
    · obtain ⟨tag, opened, -⟩ := Except.exists_of_bind_eq_ok read
      exact (startTag_extends opened []).2

section Steps

variable {fuel more : Nat}

theorem elementWithin_extends (reads : ReadsOn fuel) (le : fuel ≤ more) (depth : Nat) (c : Cursor)
    (y : List Char) : Extends (leaving y) (elementWithin (fuel + 1) depth c)
      (elementWithin (more + 1) depth (c.before y)) := by
  rw [elementWithin, elementWithin]
  split
  · exact .error _
  · refine Extends.bind (fun r opened => (startTag_extends opened y).1) ?_
    rintro ⟨name, isEmpty, c⟩ -
    dsimp only
    split
    · exact .ok _
    · exact reads.content le _ _ _ _ _ _

theorem contentWithin_nil (fuel depth : Nat) (name : String) (text : List Char)
    (children : List Element) (offset : Nat) :
    contentWithin fuel depth name text children ⟨offset, []⟩ =
      .error (.malformed offset (.endTag name)) := by
  cases fuel <;> rw [contentWithin] <;> rfl

/-- Reads on in content after an angle bracket that opens no end tag. -/
def contentOpening (fuel depth : Nat) (name : String) (text : List Char) (children : List Element)
    (c : Cursor) : Except Fault (Element × Cursor) :=
  if commentStart.isPrefixOf c.rest then do
    let d ← c.past commentEnd
    contentWithin fuel depth name text children d
  else match c.eat? sectionStart with
    | some d => match d.upTo? sectionEnd with
      | none => .error (d.fault .sectionEnd)
      | some (data, d) => contentWithin fuel depth name (text ++ data) children d
    | none => do
      let (child, d) ← elementWithin fuel (depth + 1) c
      contentWithin fuel depth name text (child :: children) d

/-- Reads on in content that starts with text. -/
def contentText (fuel depth : Nat) (name : String) (text : List Char) (children : List Element)
    (c : Cursor) : Except Fault (Element × Cursor) := do
  let written := c.rest.takeWhile (· != '<')
  let more ← (unescape written).mapError c.fault
  contentWithin fuel depth name (text ++ more) children
    (c.after written (c.rest.dropWhile (· != '<')))

theorem contentWithin_eq_endTag (fuel depth : Nat) (name : String) (text : List Char)
    (children : List Element) (offset : Nat) (cs : List Char) :
    contentWithin (fuel + 1) depth name text children ⟨offset, '<' :: '/' :: cs⟩ = do
      let d ← endTag name ⟨offset + byteLength ['<', '/'], cs⟩
      return (closed name text children, d) := by
  rw [contentWithin]
  rfl

theorem contentWithin_eq_contentOpening (depth : Nat) (name : String) (text : List Char)
    (children : List Element) (offset : Nat) (closes : cs.head? ≠ some '/') :
    contentWithin (fuel + 1) depth name text children ⟨offset, '<' :: cs⟩ =
      contentOpening fuel depth name text children ⟨offset, '<' :: cs⟩ := by
  rw [contentWithin]
  split
  · next empty => cases empty
  · next slash =>
    rw [(List.cons.inj slash).2] at closes
    exact absurd rfl closes
  · next opens =>
    obtain rfl := (List.cons.inj opens).2
    rfl
  · next other => exact absurd rfl (other cs)

theorem contentWithin_eq_contentText (depth : Nat) (name : String) (text : List Char)
    (children : List Element) (offset : Nat) {a : Char} (other : a ≠ '<') :
    contentWithin (fuel + 1) depth name text children ⟨offset, a :: cs⟩ =
      contentText fuel depth name text children ⟨offset, a :: cs⟩ := by
  rw [contentWithin]
  split
  · next empty => cases empty
  · next opens => exact absurd (List.cons.inj opens).1 other
  · next opens => exact absurd (List.cons.inj opens).1 other
  · rfl

/-- Whatever an angle bracket opens has a closing one, which tells that no mark is cut in two. -/
theorem contentOpening_extends (reads : ReadsOn fuel) (le : fuel ≤ more) (depth : Nat)
    (name : String) (text : List Char) (children : List Element) (c : Cursor) (y : List Char) :
    Extends (leaving y) (contentOpening fuel depth name text children c)
      (contentOpening more depth name text children (c.before y)) := by
  have noComment (comment : ¬commentStart.isPrefixOf c.rest) (bracket : '>' ∈ c.rest) :
      ¬commentStart.isPrefixOf (c.before y).rest := by
    rw [List.isPrefixOf_iff_prefix] at comment ⊢
    exact not_prefix_append comment bracket (by decide) y
  unfold contentOpening
  split
  · next comment =>
    have longer : commentStart.isPrefixOf (c.before y).rest := by
      rw [List.isPrefixOf_iff_prefix] at comment ⊢
      exact comment.trans (List.prefix_append c.rest y)
    rw [if_pos longer]
    exact (past_extends c commentEnd y).bind fun d _ => reads.content le _ _ _ _ _ _
  · next comment =>
    cases section_ : c.eat? sectionStart with
    | some d =>
      dsimp only
      cases ends : d.upTo? sectionEnd with
      | none => exact .error _
      | some p =>
        have bracket : '>' ∈ c.rest := by
          rw [rest_eq_of_eat? section_]
          exact List.mem_append_right _ (subset_of_upTo? ends (by decide))
        rw [if_neg (noComment comment bracket), eat?_extends section_ y]
        dsimp only
        rw [upTo?_extends ends y]
        exact reads.content le _ _ _ _ _ _
    -- an element: the bracket that closes it stands before `y`
    | none =>
      intro r read
      obtain ⟨p, inner, -⟩ := Except.exists_of_bind_eq_ok read
      have bracket := mem_of_elementWithin inner
      have noSection : (c.before y).eat? sectionStart = none := by
        rw [eat?_eq_none_iff] at section_ ⊢
        exact not_prefix_append section_ bracket (by decide) y
      rw [if_neg (noComment comment bracket), noSection]
      refine Extends.bind (reads.element le _ _ _) ?_ r read
      rintro ⟨child, d⟩ -
      exact reads.content le _ _ _ _ _ _

/-- Text goes up to an angle bracket, since an element does not end with text. -/
theorem contentText_extends (reads : ReadsOn fuel) (le : fuel ≤ more) (depth : Nat)
    (name : String) (text : List Char) (children : List Element) (c : Cursor) (y : List Char) :
    Extends (leaving y) (contentText fuel depth name text children c)
      (contentText more depth name text children (c.before y)) := by
  intro r read
  obtain ⟨written, plain, inside⟩ := Except.exists_of_bind_eq_ok read
  have ends : c.rest.dropWhile (· != '<') ≠ [] := by
    intro none
    rw [Cursor.after, none, contentWithin_nil] at inside
    cases inside
  obtain ⟨taken, left⟩ := span_append ends y
  have plain : (unescape ((c.before y).rest.takeWhile (· != '<'))).mapError (c.before y).fault =
      .ok written := by
    rw [Cursor.before, taken]
    exact plain
  rw [contentText]
  simp only [plain, bind, Except.bind]
  rw [Cursor.before, taken, left]
  exact reads.content le _ _ _ _ _ y r inside

/-- What follows an angle bracket of content is looked at with it, so it has to be there. -/
theorem contentWithin_extends (reads : ReadsOn fuel) (le : fuel ≤ more) (depth : Nat)
    (name : String) (text : List Char) (children : List Element) (c : Cursor) (y : List Char) :
    Extends (leaving y) (contentWithin (fuel + 1) depth name text children c)
      (contentWithin (more + 1) depth name text children (c.before y)) := by
  obtain ⟨offset, rest⟩ := c
  cases rest with
  | nil =>
    rw [contentWithin_nil]
    exact .error _
  | cons a cs =>
    by_cases opens : a = '<'
    · subst opens
      cases cs with
      | nil =>
        -- nothing follows the bracket that an element could start with
        intro r read
        rw [contentWithin_eq_contentOpening _ _ _ _ _ (by decide)] at read
        change (elementWithin fuel (depth + 1) ⟨offset, ['<']⟩ >>= _) = _ at read
        obtain ⟨p, inner, -⟩ := Except.exists_of_bind_eq_ok read
        exact absurd (mem_of_elementWithin inner) (show '>' ∉ ['<'] by decide)
      | cons b cs =>
        by_cases closes : b = '/'
        · subst closes
          rw [Cursor.before, List.cons_append, List.cons_append, contentWithin_eq_endTag,
            contentWithin_eq_endTag]
          exact Extends.bind (fun d ended => endTag_extends ended y) fun d _ => .ok _
        · have other (t : List Char) : (b :: t).head? ≠ some '/' := by simpa using closes
          rw [Cursor.before, List.cons_append, List.cons_append,
            contentWithin_eq_contentOpening _ _ _ _ _ (other _),
            contentWithin_eq_contentOpening _ _ _ _ _ (other _)]
          exact contentOpening_extends reads le depth name text children _ y
    · rw [Cursor.before, List.cons_append, contentWithin_eq_contentText _ _ _ _ _ opens,
        contentWithin_eq_contentText _ _ _ _ _ opens]
      exact contentText_extends reads le depth name text children _ y

end Steps

/-- The readers call each other with less allowance, so `ReadsOn` says both at once, by induction on
`fuel`. -/
theorem readsOn (fuel : Nat) : ReadsOn fuel := by
  induction fuel with
  | zero =>
    refine ⟨fun _ _ _ _ => ?_, fun _ _ _ _ _ _ _ => ?_⟩
    · rw [elementWithin]
      exact .error _
    · rw [contentWithin]
      exact .error _
  | succ fuel ih =>
    refine ⟨fun {more} le depth c y => ?_, fun {more} le depth name text children c y => ?_⟩ <;>
      obtain ⟨more, rfl⟩ := Nat.exists_eq_add_of_le' (Nat.le_trans (Nat.succ_pos fuel) le) <;>
      replace le := Nat.le_of_succ_le_succ le
    · exact elementWithin_extends ih le depth c y
    · exact contentWithin_extends ih le depth name text children c y

/-! ## Inputs -/

/-- Nothing is skipped in front of the first part of a written element. -/
theorem skipProlog_beginning {e : Element} (proper : e.Proper) (part : cs <+: e.write)
    (offset : Nat) : skipProlog ⟨offset, cs⟩ = .ok ⟨offset, cs⟩ := by
  obtain ⟨a, rest, eq, -, mark, question⟩ := Element.exists_write_eq proper
  rw [eq] at part
  cases cs with
  | nil => rfl
  | cons b cs =>
    obtain ⟨rfl, behind⟩ := List.cons_prefix_cons.1 part
    refine skipProlog_opening ?_ offset
    cases cs with
    | nil => nofun
    | cons c cs =>
      obtain ⟨rfl, -⟩ := List.cons_prefix_cons.1 behind
      rintro _ ⟨⟩
      exact ⟨mark, question⟩

theorem Reads.rest_eq {e found : Element} {shallow : Prop}
    {result : Except Fault (Element × Cursor)} (reads : Reads e y shallow result)
    (read : result = .ok (found, c)) : c.rest = y := by
  by_cases fits : shallow
  · obtain ⟨offset, same⟩ := reads.ok fits
    rw [read] at same
    cases same
    rfl
  · obtain ⟨offset, refused⟩ := reads.error fits
    rw [read] at refused
    cases refused

/-- Nothing is missing at the end of what is read as the text of an element, so `q` is empty:
whatever were missing would be left when the whole is read. -/
theorem eq_nil_of_parse {e root : Element} {p q : Bytes} (proper : e.Proper)
    (whole : Utf8.encodeChars e.write = p ++ q) (parsed : parse p = .ok root) : q = [] := by
  obtain ⟨cs, decoded, -⟩ := Except.exists_of_bind_eq_ok parsed
  obtain rfl : p = Utf8.encodeChars cs :=
    Utf8.encodeChars_of_decodeFrom p (Except.eq_ok_of_mapError_eq_ok decoded)
  obtain ⟨ds, parts, rfl⟩ := Utf8.exists_of_encodeChars_eq_append whole
  rw [parse_encodeChars (skipProlog_beginning proper ⟨ds, parts.symm⟩ 0)] at parsed
  obtain ⟨⟨found, last⟩, read, -⟩ := Except.exists_of_bind_eq_ok parsed
  obtain ⟨fuel, le, enough⟩ : ∃ fuel, 2 * cs.length + 2 ≤ fuel ∧ e.write.length ≤ fuel :=
    ⟨_, Nat.le_max_left _ _, Nat.le_max_right _ _⟩
  have longer := (readsOn _).element le 0 ⟨0, cs⟩ ds _ read
  have reads := elementWithin_write e proper fuel 0 0 [] enough
  rw [List.append_nil, parts] at reads
  have nothing : last.rest ++ ds = [] := reads.rest_eq longer
  rw [(List.append_eq_nil_iff.1 nothing).2]
  rfl

/-- Nothing may follow an element but what may stand in front of it. -/
theorem exists_parse_append {e : Element} (proper : e.Proper) {a : Char}
    (visible : Unicode.isBlank a = false) (other : a ≠ '<') (y : List Char) :
    ∃ fault, parse (Utf8.encodeChars (e.write ++ a :: y)) = .error fault := by
  have enough : e.write.length ≤ 2 * (e.write ++ a :: y).length + 2 := by
    rw [List.length_append]
    omega
  have reads := elementWithin_write e proper _ 0 0 (a :: y) enough
  rw [parse_encodeChars (skipProlog_write proper 0 (a :: y))]
  by_cases shallow : 0 + e.height ≤ elementDepthLimit
  · obtain ⟨o, read⟩ := reads.ok shallow
    have stays : skipMisc ⟨o, a :: y⟩ = .ok ⟨o, a :: y⟩ := by
      have opens (mark : List Char) : ('<' :: mark).isPrefixOf (a :: y) = false := by
        simp [List.isPrefixOf, other.symm]
      exact skipMisc_eq (skipBlanks_cons visible o y) (opens _) (opens _)
    rw [read]
    simp only [Except.bind, stays]
    exact ⟨_, rfl⟩
  · obtain ⟨o, refused⟩ := reads.error shallow
    rw [refused]
    exact ⟨_, rfl⟩

end Parcel.Xml
