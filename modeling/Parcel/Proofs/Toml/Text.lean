import Mathlib.Tactic.SplitIfs
import Parcel.Toml.Text

/-!
# Quoted strings read back

Every text can be put between double quotation marks. A character is written as itself, as a short
escape, or by its code point, and in each case reading takes exactly these characters and gives the
character back, whatever follows.

## Main results

* `Toml.basic?_escape` — one character
* `Toml.string?_quote` — a text between quotation marks
-/

namespace Parcel.Toml

variable {c : Char} {done rest : List Char}

/-- The controls that have no escape of their own are written by their code point. -/
theorem basic?_control (control : c.toNat ≤ 0x1F ∨ c.toNat = 0x7F) :
    basic? done ('\\' :: 'u' :: fourDigits c.toNat ++ rest) = basic? (c :: done) rest := by
  have digits : ∀ n ∈ 0x7F :: List.range 0x20, ∃ x y z w,
      fourDigits n = [x, y, z, w] ∧ codePoint? [x, y, z, w] = some (Char.ofNat n) := by
    have all : ∀ n ∈ 0x7F :: List.range 0x20, (fourDigits n).length = 4 ∧
        codePoint? (fourDigits n) = some (Char.ofNat n) := by decide
    intro n mem
    obtain ⟨length, read⟩ := all n mem
    match four : fourDigits n with
    | [x, y, z, w] => exact ⟨x, y, z, w, rfl, four ▸ read⟩
    | [] | [_] | [_, _] | [_, _, _] | _ :: _ :: _ :: _ :: _ :: _ => simp [four] at length
  have listed : c.toNat ∈ 0x7F :: List.range 0x20 := by
    rcases control with low | delete
    · exact List.mem_cons_of_mem _ (List.mem_range.2 (by omega))
    · exact delete ▸ List.mem_cons_self
  obtain ⟨x, y, z, w, four, read⟩ := digits _ listed
  rw [four, List.cons_append, List.cons_append, List.cons_append, List.cons_append,
    List.cons_append, List.cons_append, List.nil_append, basic?, read, Char.ofNat_toNat]

/-- A character that is no quotation mark, backslash or control stands for itself. -/
theorem basic?_plain (mark : c ≠ '"') (slash : c ≠ '\\') (plain : isPlain c) :
    basic? done (c :: rest) = basic? (c :: done) rest := by
  rw [basic?.eq_def]
  split
  · contradiction
  · next eq => exact absurd (List.cons.inj eq).1 mark
  · next eq => exact absurd (List.cons.inj eq).1 slash
  · next eq => exact absurd (List.cons.inj eq).1 slash
  · next eq => exact absurd (List.cons.inj eq).1 slash
  · next d s _ _ _ eq =>
    obtain ⟨rfl, rfl⟩ := List.cons.inj eq
    rw [if_pos]
    simpa [slash] using plain

/-- Reading takes a character as it was written. -/
theorem basic?_escape (c : Char) : basic? done (escape c ++ rest) = basic? (c :: done) rest := by
  unfold escape
  split
  · next backspace => subst backspace; rfl
  split
  · next tab => subst tab; rfl
  split
  · next feed => subst feed; rfl
  split
  · next page => subst page; rfl
  split
  · next carriage => subst carriage; rfl
  split
  · next mark => subst mark; rfl
  split
  · next slash => subst slash; rfl
  split
  · next control => exact basic?_control control
  · next mark slash control =>
    refine basic?_plain mark slash ?_
    simp only [isPlain, Bool.or_eq_true, Bool.and_eq_true, decide_eq_true_eq, bne_iff_ne]
    exact .inr (by omega)

/-- Reading takes a text up to the mark that closes it: `basic?` undoes `escape`. -/
theorem basic?_flatMap_escape (cs : List Char) :
    basic? done (cs.flatMap escape ++ '"' :: rest) = some (done.reverse ++ cs, rest) := by
  induction cs generalizing done with
  | nil =>
    rw [List.append_nil]
    rfl
  | cons c cs ih =>
    rw [List.flatMap_cons, List.append_assoc, basic?_escape, ih, List.reverse_cons,
      List.append_assoc]
    rfl

/-- No character is written with a quotation mark in front, so an empty text is the only one that
could look like the start of a text over several lines. -/
theorem exists_escape_eq_cons (c : Char) : ∃ d cs, escape c = d :: cs ∧ d ≠ '"' := by
  unfold escape
  split_ifs <;> first | exact ⟨_, _, rfl, by decide⟩ | exact ⟨_, _, rfl, ‹_›⟩

/-- A text between quotation marks reads back, unless another mark follows at once. -/
theorem string?_quote (cs : List Char) (after : rest.head? ≠ some '"') :
    string? (quote cs ++ rest) = some (cs, rest) := by
  have read : singleLine? (quote cs ++ rest) = some (cs, rest) := by
    have body : quote cs ++ rest = '"' :: (cs.flatMap escape ++ '"' :: rest) := by simp [quote]
    rw [body]
    exact basic?_flatMap_escape cs
  have single : string? (quote cs ++ rest) = singleLine? (quote cs ++ rest) := by
    unfold string?
    split
    · next s tripled =>
      cases cs with
      | nil =>
        obtain rfl : rest = '"' :: s := by simpa [quote] using tripled
        exact absurd rfl after
      | cons c cs =>
        obtain ⟨d, ds, written, other⟩ := exists_escape_eq_cons c
        rw [quote, List.flatMap_cons, written] at tripled
        exact absurd (List.cons.inj (List.cons.inj tripled).2).1 other
    · next s tripled => cases tripled
    · rfl
  rw [single, read]

end Parcel.Toml
