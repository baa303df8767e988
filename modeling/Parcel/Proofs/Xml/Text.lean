import Parcel.Proofs.Unicode.Blank
import Parcel.Xml.Parser

/-!
# XML text reads back

A character is written as itself or as an entity. What is written holds no opening angle bracket,
and reading it gives the text back. The characters of names are neither written as entities nor
end a name.

## Main results

* `Xml.escapeChar_cases` — the two ways in which a character is written
* `Xml.unescape_escape` — reading undoes writing
* `Xml.ne_of_mem_escape` — no opening angle bracket is written
* `Xml.endsName_of_continuesName` — names go on where they should
-/

namespace Parcel.Xml

variable {c : Char}

/-! ## Entities -/

/-- A control character is written by its number. -/
theorem entity?_control {n : Nat} (control : n < 0x20) :
    entity? (['#', 'x'] ++ upperHex n) = some (Char.ofNat n) ∧
      ∀ d ∈ ['#', 'x'] ++ upperHex n, d ≠ ';' ∧ d ≠ '<' := by
  have value : ∀ n < 0x20, entity? (['#', 'x'] ++ upperHex n) = some (Char.ofNat n) := by decide
  have inside : ∀ n < 0x20, (['#', 'x'] ++ upperHex n).all fun d => d ≠ ';' ∧ d ≠ '<' := by decide
  refine ⟨value n control, fun d mem => ?_⟩
  simpa using List.all_eq_true.1 (inside n control) d mem

/-- A character is written by `escapeChar` as an entity, or as it is. -/
theorem escapeChar_cases (c : Char) :
    (∃ body, escapeChar c = '&' :: (body ++ [';']) ∧ entity? body = some c ∧
      ∀ d ∈ body, d ≠ ';' ∧ d ≠ '<') ∨ (escapeChar c = [c] ∧ c ≠ '&' ∧ c ≠ '<') := by
  unfold escapeChar
  by_cases ampersand : c = '&'
  · subst ampersand
    exact .inl ⟨['a', 'm', 'p'], rfl, rfl, by simp⟩
  rw [if_neg ampersand]
  by_cases less : c = '<'
  · subst less
    exact .inl ⟨['l', 't'], rfl, rfl, by simp⟩
  rw [if_neg less]
  by_cases greater : c = '>'
  · subst greater
    exact .inl ⟨['g', 't'], rfl, rfl, by simp⟩
  rw [if_neg greater]
  by_cases quote : c = '"'
  · subst quote
    exact .inl ⟨['q', 'u', 'o', 't'], rfl, rfl, by simp⟩
  rw [if_neg quote]
  by_cases apostrophe : c = '\''
  · subst apostrophe
    exact .inl ⟨['a', 'p', 'o', 's'], rfl, rfl, by simp⟩
  rw [if_neg apostrophe]
  by_cases control : c.toNat < 0x20 ∧ c ≠ '\t' ∧ c ≠ '\n' ∧ c ≠ '\r'
  · rw [if_pos control]
    obtain ⟨value, inside⟩ := entity?_control control.1
    rw [Char.ofNat_toNat] at value
    exact .inl ⟨['#', 'x'] ++ upperHex c.toNat, rfl, value, inside⟩
  · rw [if_neg control]
    exact .inr ⟨rfl, ampersand, less⟩

/-- What stands between an ampersand and the next semicolon is an entity. -/
theorem unescapeFrom_entity {body : List Char} (inside : ∀ d ∈ body, d ≠ ';')
    (done read y : List Char)
    (value : entity? (read.reverse ++ body) = some c) :
    unescapeFrom done (some read) (body ++ ';' :: y) = unescapeFrom (c :: done) none y := by
  induction body generalizing read with
  | nil =>
    rw [List.append_nil] at value
    rw [List.nil_append, unescapeFrom]
    simp only [if_true, value]
  | cons d body ih =>
    obtain ⟨first, inside⟩ := List.forall_mem_cons.1 inside
    rw [List.cons_append, unescapeFrom]
    simp only [if_neg first]
    -- what was read is kept in reverse
    refine ih inside (d :: read) ?_
    rw [List.reverse_cons, List.append_assoc]
    exact value

theorem unescapeFrom_escapeChar (c : Char) (done y : List Char) :
    unescapeFrom done none (escapeChar c ++ y) = unescapeFrom (c :: done) none y := by
  rcases escapeChar_cases c with ⟨body, eq, value, inside⟩ | ⟨eq, ampersand, -⟩
  · rw [eq, List.cons_append, List.append_assoc, unescapeFrom]
    simp only [if_true]
    exact unescapeFrom_entity (fun d mem => (inside d mem).1) done [] y value
  · rw [eq, List.singleton_append, unescapeFrom]
    simp only [if_neg ampersand]

theorem unescapeFrom_escape (cs done : List Char) :
    unescapeFrom done none (escape cs) = .ok (done.reverse ++ cs) := by
  induction cs generalizing done with
  | nil => simp [escape, unescapeFrom]
  | cons c cs ih =>
    have eq : escape (c :: cs) = escapeChar c ++ escape cs := List.flatMap_cons
    rw [eq, unescapeFrom_escapeChar, ih]
    simp

/-- Reading undoes writing. -/
theorem unescape_escape (cs : List Char) : unescape (escape cs) = .ok cs :=
  unescapeFrom_escape cs []

/-- Every character is written. -/
theorem escape_ne_nil {cs : List Char} (nonempty : cs ≠ []) : escape cs ≠ [] := by
  intro empty
  have read := unescape_escape cs
  rw [empty] at read
  exact nonempty (Except.ok.inj read).symm

/-- No opening angle bracket is written by `escape`. -/
theorem ne_of_mem_escape {cs : List Char} {d : Char} (mem : d ∈ escape cs) : d ≠ '<' := by
  obtain ⟨c, -, mem⟩ := List.mem_flatMap.1 mem
  rcases escapeChar_cases c with ⟨body, eq, -, inside⟩ | ⟨eq, -, less⟩
  · rw [eq] at mem
    rcases List.mem_cons.1 mem with rfl | mem
    · decide
    rcases List.mem_append.1 mem with mem | mem
    · exact (inside d mem).2
    · rw [List.mem_singleton.1 mem]
      decide
  · rw [eq] at mem
    rw [List.mem_singleton.1 mem]
    exact less

/-! ## Names -/

/-- The characters of names are visible and have no meaning in tags. -/
theorem continuesName_cases (continues : continuesName c) :
    Unicode.isBlank c = false ∧ c ≠ '>' ∧ c ≠ '/' ∧ c ≠ '=' ∧ c ≠ '!' ∧ c ≠ '?' := by
  have ne {d : Char} (other : continuesName d = false) : c ≠ d := by
    rintro rfl
    rw [continues] at other
    cases other
  refine ⟨?_, ne (by decide), ne (by decide), ne (by decide), ne (by decide), ne (by decide)⟩
  simp only [continuesName, Bool.or_eq_true, beq_iff_eq] at continues
  rcases continues with ((alphanumeric | rfl) | rfl) | rfl
  · exact Unicode.isBlank_of_isAlphanumeric alphanumeric
  · decide
  · decide
  · decide

/-- The characters of names end no name. -/
theorem endsName_of_continuesName (continues : continuesName c) : endsName c = false := by
  obtain ⟨blank, close, slash, equal, -⟩ := continuesName_cases continues
  simp [endsName, blank, close, slash, equal]

/-- A name, by `isName`, is not empty, and all its characters may continue a name. -/
theorem continuesName_of_isName {cs : List Char} (name : isName cs) :
    cs ≠ [] ∧ ∀ c ∈ cs, continuesName c := by
  cases cs with
  | nil => cases name
  | cons c rest =>
    obtain ⟨start, continues⟩ := Bool.and_eq_true_iff.1 name
    refine ⟨List.cons_ne_nil _ _, List.forall_mem_cons.2 ⟨?_, List.all_eq_true.1 continues⟩⟩
    simp only [startsName, Bool.or_eq_true, beq_iff_eq] at start
    rcases start with alphabetic | rfl
    · rw [continuesName, Unicode.isAlphanumeric_of_isAlphabetic alphabetic]
      rfl
    · decide

end Parcel.Xml
