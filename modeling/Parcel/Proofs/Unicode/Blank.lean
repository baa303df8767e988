import Parcel.Unicode.Blank
import Parcel.Unicode.Character

/-!
# Names hold no white space

No letter, no numeral and no other alphabetic character is white space. For ASCII this is a matter
of a few characters. Beyond ASCII each table is looked through once for the few code points that
are white space; what holds of two tables holds of their union, since joining spans adds nothing to
them.

## Main definitions

* `Unicode.wideBlanks` — the white space beyond ASCII
* `CharSet.Misses` — a set without white space beyond ASCII

## Main results

* `CharSet.holds_union` — what is in a union is in one of the sets
* `Unicode.isBlank_of_isAlphabetic`, `Unicode.isBlank_of_isAlphanumeric` — names hold no white space
-/

namespace Parcel

/-! ## Joining spans -/

namespace Span

variable {s : Span} {spans : List Span} {n : Nat}

/-- Joining adds no code point. -/
theorem holds_of_join (found : (join s spans).any (·.holds n)) :
    s.holds n ∨ spans.any (·.holds n) := by
  induction spans generalizing s with
  | nil => simpa [join] using found
  | cons t rest ih =>
    rw [join] at found
    by_cases touching : t.first ≤ s.last + 1
    · rw [if_pos touching] at found
      rcases ih found with joined | later
      · -- past the first span the joined one is the second one
        simp only [holds, Bool.and_eq_true, decide_eq_true_eq] at joined
        by_cases within : n ≤ s.last
        · left
          simp only [holds, Bool.and_eq_true, decide_eq_true_eq]
          exact ⟨joined.1, within⟩
        · right
          simp only [List.any_cons, holds, Bool.or_eq_true, Bool.and_eq_true, decide_eq_true_eq]
          left
          omega
      · right
        rw [List.any_cons, later, Bool.or_true]
    · rw [if_neg touching, List.any_cons, Bool.or_eq_true] at found
      rcases found with here | later
      · exact .inl here
      · right
        rw [List.any_cons, Bool.or_eq_true]
        exact ih later

theorem holds_of_joinAll (found : (joinAll spans).any (·.holds n)) : spans.any (·.holds n) := by
  cases spans with
  | nil => exact found
  | cons s rest =>
    rw [List.any_cons, Bool.or_eq_true]
    exact holds_of_join found

end Span

/-- What is in a union is in one of the sets. -/
theorem CharSet.holds_union {a b : CharSet} {n : Nat} (found : (a ∪ b).holds n) :
    a.holds n ∨ b.holds n := by
  have merged := Span.holds_of_joinAll found
  obtain ⟨s, mem, here⟩ := List.any_eq_true.1 merged
  rcases List.mem_merge.1 mem with first | second
  · exact .inl (List.any_eq_true.2 ⟨s, first, here⟩)
  · exact .inr (List.any_eq_true.2 ⟨s, second, here⟩)

/-! ## Tables -/

namespace Unicode

/-- The white space beyond ASCII. -/
def wideBlanks : List Nat :=
  [0x85, 0xA0, 0x1680, 0x2000, 0x2001, 0x2002, 0x2003, 0x2004, 0x2005, 0x2006, 0x2007, 0x2008,
    0x2009, 0x200A, 0x2028, 0x2029, 0x202F, 0x205F, 0x3000]

theorem mem_wideBlanks {c : Char} (wide : 0x80 ≤ c.toNat) (blank : isBlank c) :
    c.toNat ∈ wideBlanks := by
  simp only [isBlank, Bool.or_eq_true, Bool.and_eq_true, decide_eq_true_eq, beq_iff_eq] at blank
  simp only [wideBlanks, List.mem_cons, List.not_mem_nil, or_false]
  omega

end Unicode

open Unicode

/-- A set without white space beyond ASCII. -/
def CharSet.Misses (s : CharSet) : Prop := ∀ n ∈ wideBlanks, s.holds n = false

namespace CharSet.Misses

variable {a b : CharSet}

theorem union (first : a.Misses) (second : b.Misses) : (a ∪ b).Misses := by
  intro n mem
  cases found : (a ∪ b).holds n with
  | false => rfl
  | true =>
    rcases CharSet.holds_union found with here | here
    · rw [first n mem] at here
      cases here
    · rw [second n mem] at here
      cases here

/-- A table of spans has none of `wideBlanks` when each of its words has none. -/
theorem table {cs : List Char}
    (all : ((cs.foldr addToWords []).filter (!·.isEmpty)).all fun word =>
      (Run.ofWord word).spans.all fun s => wideBlanks.all fun n => !s.holds n) :
    (table (String.ofList cs)).Misses := by
  intro n mem
  cases found : (Unicode.table (String.ofList cs)).holds n with
  | false => rfl
  | true =>
    have spans := Span.holds_of_joinAll found
    rw [words, String.toList_ofList] at spans
    obtain ⟨s, inWord, here⟩ := List.any_eq_true.1 spans
    obtain ⟨word, isWord, inSpans⟩ := List.mem_flatMap.1 inWord
    have missed := List.all_eq_true.1 (List.all_eq_true.1 (List.all_eq_true.1 all word isWord) s
      inSpans) n mem
    rw [here] at missed
    cases missed

end CharSet.Misses

/-! ## Letters and numerals -/

namespace Unicode

open CharSet (Misses)

theorem misses_letter : letter.Misses := by
  unfold letter uppercaseLetter lowercaseLetter titlecaseLetter modifierLetter otherLetter
  refine .union (.union (.union (.union ?_ ?_) ?_) ?_) ?_
  all_goals
    apply Misses.table
    decide +kernel

theorem misses_letterNumeral : letterNumeral.Misses := by
  unfold letterNumeral
  apply Misses.table
  decide +kernel

theorem misses_alphabetic : alphabetic.Misses := by
  have other : otherAlphabetic.Misses := by
    unfold otherAlphabetic
    apply Misses.table
    decide +kernel
  exact (misses_letter.union misses_letterNumeral).union other

theorem misses_numeral : numeral.Misses := by
  have decimal : decimalNumeral.Misses := by
    unfold decimalNumeral
    apply Misses.table
    decide +kernel
  have other : otherNumeral.Misses := by
    unfold otherNumeral
    apply Misses.table
    decide +kernel
  exact (decimal.union misses_letterNumeral).union other

theorem misses_recentAlphabetic : recentAlphabetic.Misses := by
  unfold recentAlphabetic
  apply Misses.table
  decide +kernel

theorem misses_recentNumeral : recentNumeral.Misses := by
  unfold recentNumeral
  apply Misses.table
  decide +kernel

/-! ## Characters -/

variable {c : Char}

theorem range_of_isAlphanum (alphanum : c.isAlphanum) :
    0x30 ≤ c.toNat ∧ c.toNat ≤ 0x39 ∨ 0x41 ≤ c.toNat ∧ c.toNat ≤ 0x5A ∨
      0x61 ≤ c.toNat ∧ c.toNat ≤ 0x7A := by
  have cases : (c.isUpper || c.isLower || c.isDigit) = true := alphanum
  simp only [Bool.or_eq_true] at cases
  rcases cases with (upper | lower) | digit
  · have bounds : 0x41 ≤ c.val ∧ c.val ≤ 0x5A := of_decide_eq_true upper
    exact .inr (.inl ⟨UInt32.le_iff_toNat_le.1 bounds.1, UInt32.le_iff_toNat_le.1 bounds.2⟩)
  · obtain ⟨least, greatest⟩ := (Bool.and_eq_true _ _).mp lower
    have least : 0x61 ≤ c.val := of_decide_eq_true least
    have greatest : c.val ≤ 0x7A := of_decide_eq_true greatest
    exact .inr (.inr ⟨UInt32.le_iff_toNat_le.1 least, UInt32.le_iff_toNat_le.1 greatest⟩)
  · left
    exact Char.isDigit_iff_toNat.1 digit

theorem isBlank_of_isAlphanum (alphanum : c.isAlphanum) : isBlank c = false := by
  have range := range_of_isAlphanum alphanum
  simp only [isBlank, Bool.or_eq_false_iff, Bool.and_eq_false_iff, decide_eq_false_iff_not,
    beq_eq_false_iff_ne]
  omega

theorem isBlank_of_isAlphanumeric (alphanumeric : isAlphanumeric c) : isBlank c = false := by
  unfold isAlphanumeric at alphanumeric
  by_cases narrow : c.toNat < 0x80
  · rw [if_pos narrow] at alphanumeric
    exact isBlank_of_isAlphanum alphanumeric
  · rw [if_neg narrow] at alphanumeric
    cases blank : isBlank c with
    | false => rfl
    | true =>
      -- white space beyond ASCII is in none of the tables
      have wide := mem_wideBlanks (Nat.not_lt.1 narrow) blank
      rw [alphabeticPoint, misses_alphabetic _ wide, misses_recentAlphabetic _ wide,
        misses_numeral _ wide, misses_recentNumeral _ wide] at alphanumeric
      cases alphanumeric

/-- Alphabetic characters are alphanumeric. -/
theorem isAlphanumeric_of_isAlphabetic (alphabetic : isAlphabetic c) : isAlphanumeric c := by
  unfold isAlphabetic at alphabetic
  unfold isAlphanumeric
  by_cases narrow : c.toNat < 0x80
  · rw [if_pos narrow] at alphabetic ⊢
    rw [Char.isAlphanum, alphabetic, Bool.true_or]
  · rw [if_neg narrow] at alphabetic ⊢
    rw [alphabetic, Bool.true_or, Bool.true_or]

end Unicode

end Parcel
