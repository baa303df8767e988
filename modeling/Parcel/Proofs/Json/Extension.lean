import Mathlib.Data.List.DropRight
import Parcel.Json.Reader
import Parcel.Proofs.Json.Writing

/-!
# JSON with more bytes behind it

Every value but a number says where it ends. So what a reader has read from some bytes it reads from
a longer input as well, and the additional bytes are left, provided that a number does not reach to
the end of the shorter one. A document is an object, so it is not cut short anywhere.

## Main definitions

* `Json.ReadsOn` — what holds of the readers of values and lists at once

## Main results

* `Json.number?_extends` — numbers that something follows
* `Json.readsOn` — all values
* `Json.eq_nil_of_decode?` — the first part of a document is no document
* `Json.decode?_append_eq_none` — nothing may follow a document
-/

namespace Parcel.Json

variable {s rest y : Bytes}

/-! ## Strings and white space -/

/-- The letter of an escape by code point is none of the short escapes. -/
theorem stringFrom_short {e : UInt8} {done t : Bytes} (short : isShortEscape e) :
    stringFrom done (0x5C :: e :: t) = stringFrom (e :: 0x5C :: done) t := by
  rw [stringFrom, if_pos short]
  rintro _ _ _ _ _ rfl -
  cases short

theorem stringFrom_plain {b : UInt8} {done t : Bytes} (quote : b ≠ 0x22)
    (plain : ¬(b < 0x20 ∨ b = 0x5C)) : stringFrom done (b :: t) = stringFrom (b :: done) t := by
  have backslash : b ≠ 0x5C := fun same => plain (.inr same)
  rw [stringFrom, if_neg plain]
  · exact quote
  · exact fun _ _ _ _ _ same _ => backslash same
  · exact fun _ _ same _ => backslash same

theorem stringFrom_extends {done raw : Bytes} (read : stringFrom done s = some (raw, rest))
    (y : Bytes) : stringFrom done (s ++ y) = some (raw, rest ++ y) := by
  induction done, s using stringFrom.induct with
  | case1 done => cases read
  | case2 done left =>
    rw [stringFrom] at read
    cases read
    rw [List.cons_append, stringFrom]
  | case3 done a b c d left all ih =>
    rw [stringFrom, if_pos all] at read
    rw [List.cons_append, List.cons_append, List.cons_append, List.cons_append, List.cons_append,
      List.cons_append, stringFrom, if_pos all]
    exact ih read
  | case4 done a b c d left other =>
    rw [stringFrom, if_neg other] at read
    cases read
  | case5 done e left long short ih =>
    rw [stringFrom_short short] at read
    rw [List.cons_append, List.cons_append, stringFrom_short short]
    exact ih read
  | case6 done e left long other =>
    rw [stringFrom, if_neg other] at read
    · cases read
    · exact long
  | case7 done b left quote long short other =>
    rw [stringFrom, if_pos other] at read
    · cases read
    · exact quote
    · exact long
    · exact short
  | case8 done b left quote long short plain ih =>
    rw [stringFrom_plain quote plain] at read
    rw [List.cons_append, stringFrom_plain quote plain]
    exact ih read

theorem string?_extends {p : Bytes × Bytes} (read : string? s = some p) (y : Bytes) :
    string? (s ++ y) = some (p.1, p.2 ++ y) := stringFrom_extends read y

/-- White space ends before the first other byte `b`, whatever comes later. -/
theorem skipSpace_extends {b : UInt8} {t : Bytes} (visible : skipSpace s = b :: t) (y : Bytes) :
    skipSpace (s ++ y) = b :: (t ++ y) := by
  rw [skipSpace, List.dropWhile_append, ← skipSpace, visible]
  rfl

theorem ne_nil_of_skipSpace {b : UInt8} {t : Bytes} (visible : skipSpace s = b :: t) : s ≠ [] := by
  rintro rfl
  cases visible

theorem skipSpace_skipSpace (s : Bytes) : skipSpace (skipSpace s) = skipSpace s :=
  List.dropWhile_idempotent isSpace s

theorem valueWithin_skipSpace (fuel : Nat) (s : Bytes) :
    valueWithin fuel (skipSpace s) = valueWithin fuel s := by
  cases fuel with
  | zero => rw [valueWithin, valueWithin]
  | succ fuel => rw [valueWithin, valueWithin, skipSpace_skipSpace]

/-! ## Numbers -/

/-- The digits that `digits?` reads end where there is no digit, or where the input ends. -/
theorem of_digits? {digits : Bytes} (read : digits? s = some (digits, rest)) :
    IsDigits digits ∧ s = digits ++ rest ∧ ∀ b ∈ rest.head?, isDigit b = false := by
  rw [digits?] at read
  split at read
  · cases read
  · next some =>
    cases read
    refine ⟨⟨?_, ?_⟩, (List.takeWhile_append_dropWhile).symm, ?_⟩
    · simpa using some
    · exact fun b mem => List.mem_takeWhile_imp mem
    · intro b first
      have stops := List.head?_dropWhile_not isDigit s
      rw [first] at stops
      exact stops

theorem digits?_extends {digits : Bytes} (read : digits? s = some (digits, rest))
    (more : rest ≠ []) (y : Bytes) : digits? (s ++ y) = some (digits, rest ++ y) := by
  obtain ⟨run, rfl, stops⟩ := of_digits? read
  rw [List.append_assoc]
  refine digits?_append run ?_
  rwa [List.head?_append_of_ne_nil rest more]

theorem fraction?_extends {fraction : Option Bytes} (read : fraction? s = some (fraction, rest))
    (more : rest ≠ []) (y : Bytes) : fraction? (s ++ y) = some (fraction, rest ++ y) := by
  unfold fraction? at read
  split at read
  · obtain ⟨⟨digits, left⟩, run, same⟩ := Option.map_eq_some_iff.1 read
    cases same
    rw [List.cons_append, fraction?, digits?_extends run more y]
    rfl
  · next other =>
    cases read
    obtain ⟨b, t, rfl⟩ := List.exists_cons_of_ne_nil more
    rw [List.cons_append, fraction?]
    rintro _ ⟨⟩
    exact other t rfl

/-- Whether an exponent is negative, and what comes after its sign. -/
def exponentSign : Bytes → Bool × Bytes
  | 0x2D :: t => (true, t)
  | 0x2B :: t => (false, t)
  | t => (false, t)

theorem exponent?_cons (b : UInt8) (t : Bytes) : exponent? (b :: t) =
    if b = 0x65 ∨ b = 0x45 then
      (digits? (exponentSign t).2).map fun p => (some ((exponentSign t).1, p.1), p.2)
    else some (none, b :: t) := by
  unfold exponent?
  dsimp only
  split
  · split
    · rfl
    · rfl
    · next minus plus => rw [exponentSign.eq_3 t minus plus]
  · rfl

theorem exponentSign_append (some : s ≠ []) (y : Bytes) :
    exponentSign (s ++ y) = ((exponentSign s).1, (exponentSign s).2 ++ y) := by
  obtain ⟨b, t, rfl⟩ := List.exists_cons_of_ne_nil some
  by_cases minus : b = 0x2D
  · subst minus
    rfl
  by_cases plus : b = 0x2B
  · subst plus
    rfl
  rw [List.cons_append, exponentSign, exponentSign]
  · rfl
  all_goals
    rintro _ ⟨⟩
    contradiction

theorem afterSign_append (some : s ≠ []) (y : Bytes) :
    afterSign (s ++ y) = ((afterSign s).1, (afterSign s).2 ++ y) := by
  obtain ⟨b, t, rfl⟩ := List.exists_cons_of_ne_nil some
  by_cases minus : b = 0x2D
  · subst minus
    rfl
  rw [List.cons_append, afterSign, afterSign]
  · rfl
  all_goals
    rintro _ ⟨⟩
    contradiction

theorem exponent?_extends {exponent : Option (Bool × Bytes)}
    (read : exponent? s = some (exponent, rest)) (more : rest ≠ []) (y : Bytes) :
    exponent? (s ++ y) = some (exponent, rest ++ y) := by
  cases s with
  | nil =>
    cases read
    exact absurd rfl more
  | cons b t =>
    rw [exponent?_cons] at read
    rw [List.cons_append, exponent?_cons]
    split at read
    · next letter =>
      obtain ⟨⟨digits, left⟩, run, same⟩ := Option.map_eq_some_iff.1 read
      cases same
      have nonempty : t ≠ [] := by
        rintro rfl
        cases run
      rw [if_pos letter, exponentSign_append nonempty, digits?_extends run more y]
      rfl
    · next other =>
      cases read
      rw [if_neg other]
      rfl

/-- A number is read in a longer input as well when something follows it already: `rest` is not
empty. -/
theorem number?_extends {n : Numeral} (read : number? s = some (n, rest)) (more : rest ≠ [])
    (y : Bytes) : number? (s ++ y) = some (n, rest ++ y) := by
  have nonempty : s ≠ [] := by
    rintro rfl
    cases read
  rw [number?_eq] at read ⊢
  rw [afterSign_append nonempty]
  generalize (afterSign s).1 = negative at read ⊢
  generalize (afterSign s).2 = s at read ⊢
  obtain ⟨⟨whole, afterWhole⟩, digits, read⟩ := Option.bind_eq_some_iff.1 read
  dsimp only at read
  split at read
  · cases read
  · next leading =>
    obtain ⟨⟨fraction, afterFraction⟩, point, read⟩ := Option.bind_eq_some_iff.1 read
    obtain ⟨⟨exponent, left⟩, letter, finish⟩ := Option.bind_eq_some_iff.1 read
    cases finish
    -- what is left behind the number is left behind each part of it
    have more_fraction : afterFraction ≠ [] := by
      rintro rfl
      cases letter
      exact more rfl
    have more_whole : afterWhole ≠ [] := by
      rintro rfl
      cases point
      exact more_fraction rfl
    rw [unsigned?, digits?_extends digits more_whole y]
    simp only [bind, Option.bind, if_neg leading, fraction?_extends point more_fraction y,
      exponent?_extends letter more y]
    rfl

/-! ## Values -/

/-- The readers with this allowance read on: with at least as much, they give the same from a longer
input. A number is an exception if the shorter input ends with it. -/
structure ReadsOn (fuel : Nat) : Prop where
  value : ∀ {more s t rest}, fuel ≤ more → valueWithin fuel s = some (t, rest) →
    (∀ n, t = .number n → rest ≠ []) → ∀ y, valueWithin more (s ++ y) = some (t, rest ++ y)
  items : ∀ {more s items rest}, fuel ≤ more → itemsWithin fuel s = some (items, rest) → ∀ y,
    itemsWithin more (s ++ y) = some (items, rest ++ y)
  members : ∀ {more s members rest}, fuel ≤ more → membersWithin fuel s = some (members, rest) →
    ∀ y, membersWithin more (s ++ y) = some (members, rest ++ y)

/-- A number starts with a minus sign or a digit. -/
theorem exists_start_of_number? {p : Numeral × Bytes} (read : number? s = some p) :
    ∃ b t, s = b :: t ∧ (b = 0x2D ∨ isDigit b) := by
  cases s with
  | nil => cases read
  | cons b t =>
    refine ⟨b, t, rfl, ?_⟩
    by_cases minus : b = 0x2D
    · exact .inl minus
    rw [number?_cons minus] at read
    obtain ⟨⟨whole, left⟩, digits, -⟩ := Option.bind_eq_some_iff.1 read
    obtain ⟨run, eq, -⟩ := of_digits? digits
    obtain ⟨c, cs, rfl⟩ := List.exists_cons_of_ne_nil run.nonempty
    obtain ⟨rfl, -⟩ := List.cons.inj eq
    exact .inr (run.all b List.mem_cons_self)

section Steps

variable {fuel more : Nat}

theorem valueWithin_nil (fuel : Nat) : valueWithin fuel [] = none := by
  cases fuel <;> rw [valueWithin]
  rfl

theorem itemsWithin_nil (fuel : Nat) : itemsWithin fuel [] = none := by
  cases fuel <;> rw [itemsWithin]
  rw [valueWithin_nil]
  rfl

theorem membersWithin_nil (fuel : Nat) : membersWithin fuel [] = none := by
  cases fuel <;> rw [membersWithin]
  rfl

/-- Reads an array after its opening bracket. -/
def afterBracket (fuel : Nat) (s : Bytes) : Option (Tree × Bytes) :=
  match skipSpace s with
  | 0x5D :: rest => some (.array [], rest)
  | rest => (itemsWithin fuel rest).map fun (items, rest) => (.array items, rest)

/-- Reads an object after its opening brace. -/
def afterBrace (fuel : Nat) (s : Bytes) : Option (Tree × Bytes) :=
  match skipSpace s with
  | 0x7D :: rest => some (.object [], rest)
  | rest => (membersWithin fuel rest).map fun (members, rest) => (.object members, rest)

theorem valueWithin_eq_afterBracket {t : Bytes} (starts : skipSpace s = 0x5B :: t) :
    valueWithin (fuel + 1) s = afterBracket fuel t := by
  rw [valueWithin, starts]
  rfl

theorem valueWithin_eq_afterBrace {t : Bytes} (starts : skipSpace s = 0x7B :: t) :
    valueWithin (fuel + 1) s = afterBrace fuel t := by
  rw [valueWithin, starts]
  rfl

theorem afterBracket_extends (reads : ReadsOn fuel) (le : fuel ≤ more) {p : Tree × Bytes}
    (read : afterBracket fuel s = some p) (y : Bytes) :
    afterBracket more (s ++ y) = some (p.1, p.2 ++ y) := by
  unfold afterBracket at read ⊢
  split at read
  · next closes =>
    cases read
    rw [skipSpace_extends closes y]
    rfl
  · next other =>
    obtain ⟨q, inside, rfl⟩ := Option.map_eq_some_iff.1 read
    -- items are not read from nothing, so the first byte is the same in the longer input
    have some : skipSpace s ≠ [] := by
      intro none
      rw [none, itemsWithin_nil] at inside
      cases inside
    obtain ⟨b, t, opens⟩ := List.exists_cons_of_ne_nil some
    have longer := reads.items le inside y
    rw [opens, List.cons_append] at longer
    rw [skipSpace_extends opens y]
    split
    · next closes =>
      obtain ⟨rfl, -⟩ := List.cons.inj closes
      exact absurd opens (other t)
    · rw [longer]
      rfl

theorem afterBrace_extends (reads : ReadsOn fuel) (le : fuel ≤ more) {p : Tree × Bytes}
    (read : afterBrace fuel s = some p) (y : Bytes) :
    afterBrace more (s ++ y) = some (p.1, p.2 ++ y) := by
  unfold afterBrace at read ⊢
  split at read
  · next closes =>
    cases read
    rw [skipSpace_extends closes y]
    rfl
  · next other =>
    obtain ⟨q, inside, rfl⟩ := Option.map_eq_some_iff.1 read
    have some : skipSpace s ≠ [] := by
      intro none
      rw [none, membersWithin_nil] at inside
      cases inside
    obtain ⟨b, t, opens⟩ := List.exists_cons_of_ne_nil some
    have longer := reads.members le inside y
    rw [opens, List.cons_append] at longer
    rw [skipSpace_extends opens y]
    split
    · next closes =>
      obtain ⟨rfl, -⟩ := List.cons.inj closes
      exact absurd opens (other t)
    · rw [longer]
      rfl

theorem valueWithin_extends (reads : ReadsOn fuel) (le : fuel ≤ more) {t : Tree}
    (read : valueWithin (fuel + 1) s = some (t, rest)) (ends : ∀ n, t = .number n → rest ≠ [])
    (y : Bytes) : valueWithin (more + 1) (s ++ y) = some (t, rest ++ y) := by
  rw [valueWithin] at read
  split at read
  · next starts =>
    cases read
    rw [valueWithin, skipSpace_extends starts y]
    rfl
  · next starts =>
    cases read
    rw [valueWithin, skipSpace_extends starts y]
    rfl
  · next starts =>
    cases read
    rw [valueWithin, skipSpace_extends starts y]
    rfl
  · next starts =>
    obtain ⟨p, string, same⟩ := Option.map_eq_some_iff.1 read
    cases same
    rw [← valueWithin_skipSpace, skipSpace_extends starts y, valueWithin_string,
      string?_extends string y]
    rfl
  · next starts =>
    rw [valueWithin_eq_afterBracket (skipSpace_extends starts y)]
    exact afterBracket_extends reads le read y
  · next starts =>
    rw [valueWithin_eq_afterBrace (skipSpace_extends starts y)]
    exact afterBrace_extends reads le read y
  · -- a number at the very end might go on in `y`, which `ends` rules out
    obtain ⟨p, numeral, same⟩ := Option.map_eq_some_iff.1 read
    cases same
    obtain ⟨b, t, starts, start⟩ := exists_start_of_number? numeral
    have longer := number?_extends numeral (ends p.1 rfl) y
    rw [starts, List.cons_append] at longer
    rw [← valueWithin_skipSpace, skipSpace_extends starts y, valueWithin_number start, longer]
    rfl

theorem itemsWithin_extends (reads : ReadsOn fuel) (le : fuel ≤ more) {items : List Tree}
    (read : itemsWithin (fuel + 1) s = some (items, rest)) (y : Bytes) :
    itemsWithin (more + 1) (s ++ y) = some (items, rest ++ y) := by
  rw [itemsWithin] at read ⊢
  obtain ⟨⟨item, left⟩, first, read⟩ := Option.bind_eq_some_iff.1 read
  -- the item is not last in the input: a comma or a bracket follows
  have longer (some : left ≠ []) := reads.value le first (fun _ _ => some) y
  dsimp only at read
  split at read
  · next closes =>
    cases read
    simp only [longer (ne_nil_of_skipSpace closes), bind, Option.bind, skipSpace_extends closes y]
    rfl
  · next continues =>
    obtain ⟨⟨others, left⟩, later, finish⟩ := Option.bind_eq_some_iff.1 read
    cases finish
    simp only [longer (ne_nil_of_skipSpace continues), bind, Option.bind,
      skipSpace_extends continues y, reads.items le later y]
    rfl
  · cases read

theorem membersWithin_extends (reads : ReadsOn fuel) (le : fuel ≤ more) {members : List Member}
    (read : membersWithin (fuel + 1) s = some (members, rest)) (y : Bytes) :
    membersWithin (more + 1) (s ++ y) = some (members, rest ++ y) := by
  rw [membersWithin] at read ⊢
  split at read
  · next opens =>
    obtain ⟨⟨key, left⟩, string, read⟩ := Option.bind_eq_some_iff.1 read
    dsimp only at read
    split at read
    · next colon =>
      obtain ⟨⟨value, left⟩, first, read⟩ := Option.bind_eq_some_iff.1 read
      have longer (some : left ≠ []) := reads.value le first (fun _ _ => some) y
      dsimp only at read
      split at read
      · next closes =>
        cases read
        simp only [skipSpace_extends opens y, string?_extends string y, bind, Option.bind,
          skipSpace_extends colon y, longer (ne_nil_of_skipSpace closes),
          skipSpace_extends closes y]
        rfl
      · next continues =>
        obtain ⟨⟨others, left⟩, later, finish⟩ := Option.bind_eq_some_iff.1 read
        cases finish
        simp only [skipSpace_extends opens y, string?_extends string y, bind, Option.bind,
          skipSpace_extends colon y, longer (ne_nil_of_skipSpace continues),
          skipSpace_extends continues y, reads.members le later y]
        rfl
      · cases read
    · cases read
  · cases read

end Steps

/-- The readers call each other with less allowance, so `ReadsOn` says all of them at once, by
induction on `fuel`. -/
theorem readsOn (fuel : Nat) : ReadsOn fuel := by
  induction fuel with
  | zero =>
    refine ⟨fun _ read => ?_, fun _ read => ?_, fun _ read => ?_⟩
    · rw [valueWithin] at read
      cases read
    · rw [itemsWithin] at read
      cases read
    · rw [membersWithin] at read
      cases read
  | succ fuel ih =>
    refine ⟨fun {more} _ _ _ le => ?_, fun {more} _ _ _ le => ?_, fun {more} _ _ _ le => ?_⟩ <;>
      obtain ⟨more, rfl⟩ := Nat.exists_eq_add_of_le' (Nat.le_trans (Nat.succ_pos fuel) le) <;>
      replace le := Nat.le_of_succ_le_succ le
    · exact valueWithin_extends ih le
    · exact itemsWithin_extends ih le
    · exact membersWithin_extends ih le

/-! ## Inputs -/

/-- Nothing is missing at the end of what is read as a document, so `q` is empty: whatever were
missing would be left when the whole is read. -/
theorem eq_nil_of_decode? {d e : Document} {p q : Bytes} (whole : encode d = p ++ q)
    (decoded : decode? p = some e) : q = [] := by
  obtain ⟨t, parsed, described⟩ := Option.bind_eq_some_iff.1 decoded
  obtain ⟨⟨tree, left⟩, read, ends⟩ := Option.bind_eq_some_iff.1 parsed
  dsimp only at ends
  split at ends
  · cases ends
    have other : ∀ n, t = .number n → left ≠ [] := by
      rintro n rfl
      cases described
    obtain ⟨fuel, le, enough⟩ : ∃ fuel, p.length + 1 ≤ fuel ∧ (p ++ q).length ≤ fuel :=
      ⟨_, Nat.le_max_left _ _, Nat.le_max_right _ _⟩
    have longer := (readsOn _).value le read other q
    rw [← whole, encode_eq_write] at longer enough
    have all := valueWithin_write (documentTree d) (proper_documentTree d) fuel [] enough
      fun _ _ _ mem => by cases mem
    rw [List.append_nil, longer] at all
    have nothing : left ++ q = [] := congrArg Prod.snd (Option.some.inj all)
    exact (List.append_eq_nil_iff.1 nothing).2
  · cases ends

/-- Nothing may follow a document but white space, and the `visible` byte `b` is none. -/
theorem decode?_append_eq_none (d : Document) {b : UInt8} (visible : isSpace b = false)
    (y : Bytes) : decode? (encode d ++ b :: y) = none := by
  have object : ∀ n, documentTree d ≠ .number n := by
    obtain ⟨header, values⟩ := d
    exact nofun
  have enough : (documentTree d).write.length ≤ ((documentTree d).write ++ b :: y).length + 1 := by
    rw [List.length_append]
    omega
  have read := valueWithin_write (documentTree d) (proper_documentTree d) _ (b :: y) enough
    fun n number => absurd number (object n)
  rw [decode?, parse?, value?, encode_eq_write, read]
  simp only [bind, Option.bind, skipSpace_cons visible]
  rfl

end Parcel.Json
