import Parcel.Delimited.Scanner
import Parcel.Delimited.Writer
import Mathlib.Data.List.Forall2

/-!
# How the scanner moves over written bytes

Each step of the scanner stops where a written part ends, whatever follows it: the next comma ends
a part without commas, the next end of a pair ends a payload without one. A block of written pairs
is read pair by pair.

## Main definitions

* `Delimited.PairReader.Takes` — a reader takes exactly the given bytes

## Main results

* `Delimited.Cursor.upTo_append`, `Delimited.Cursor.upToTerminator_append`
* `Delimited.block_flatMap` — a block of written pairs
-/

namespace Parcel.Delimited

theorem openBraces_eq : openBraces = [0x3D, 0x7B, 0x7B] := by decide

theorem closeBraces_eq : closeBraces = [0x7D, 0x7D, 0x3B] := by decide

theorem terminator_eq : terminator = [0x5D, 0x3B] := by decide

/-! ## Payloads without the end of a pair -/

theorem offsetOfPairFrom_eq_none {first second : UInt8} {x : Bytes} (absent : first ∉ x) (i : Nat) :
    Bytes.offsetOfPairFrom first second i x = none := by
  induction x generalizing i with
  | nil => rfl
  | cons b x ih =>
    rw [List.mem_cons, not_or] at absent
    rw [Bytes.offsetOfPairFrom, beq_eq_false_iff_ne.2 (Ne.symm absent.1), Bool.false_and,
      if_neg (by decide), ih absent.2]

/-- A payload without a closing bracket has no end of a pair. -/
theorem hasTerminator_eq_false {x : Bytes} (absent : Bytes.ofChar ']' ∉ x) :
    hasTerminator x = false := by
  rw [hasTerminator, Bytes.offsetOfPair?, offsetOfPairFrom_eq_none absent]
  rfl

/-- The first end of a pair after a payload without one is right behind it: a closing bracket at
the end of the payload is followed by another one, not by a semicolon. -/
theorem offsetOfPairFrom_append {x : Bytes} {i : Nat} (y : Bytes)
    (absent : Bytes.offsetOfPairFrom (Bytes.ofChar ']') (Bytes.ofChar ';') i x = none) :
    Bytes.offsetOfPairFrom (Bytes.ofChar ']') (Bytes.ofChar ';') i
      (x ++ Bytes.ofChar ']' :: Bytes.ofChar ';' :: y) = some (i + x.length) := by
  induction x generalizing i with
  | nil => rfl
  | cons b x ih =>
    rw [Bytes.offsetOfPairFrom] at absent
    split_ifs at absent with here
    -- where the payload ends, the byte after the next one is the bracket that was added
    have not_here : ¬(b == Bytes.ofChar ']' &&
        (x ++ Bytes.ofChar ']' :: Bytes.ofChar ';' :: y).head? ==
          some (Bytes.ofChar ';')) = true := by
      cases x with
      | nil =>
        rw [Bool.and_eq_true, not_and]
        exact fun _ => (by decide : ¬(some (Bytes.ofChar ']') == some (Bytes.ofChar ';')) = true)
      | cons d x => exact here
    rw [List.cons_append, Bytes.offsetOfPairFrom, if_neg not_here, ih absent, List.length_cons]
    congr 1
    omega

namespace Cursor

variable {o : Nat} {b : UInt8} {x y : Bytes} {c : Cursor}

theorem skipBlanks_cons (visible : Bytes.isBlank b = false) :
    skipBlanks ⟨o, b :: y⟩ = ⟨o, b :: y⟩ := by
  rw [skipBlanks, skipBlanksFrom, visible]
  rfl

theorem skipBlanks_nil : skipBlanks ⟨o, []⟩ = ⟨o, []⟩ := rfl

/-- A part without the character `char` ends where the character stands. -/
theorem upTo_append {char : Char} (absent : Bytes.ofChar char ∉ x) :
    upTo char ⟨o, x ++ Bytes.ofChar char :: y⟩ = .ok (⟨o, x⟩, ⟨o + x.length + 1, y⟩) := by
  have kept : ∀ b ∈ x, (b != Bytes.ofChar char) = true := fun b mem => by
    rw [bne_iff_ne]
    rintro rfl
    exact absent mem
  have stop : (Bytes.ofChar char != Bytes.ofChar char) = false := bne_self_eq_false _
  have before : (x ++ Bytes.ofChar char :: y).takeWhile (· != Bytes.ofChar char) = x := by
    rw [List.takeWhile_append_of_pos kept, List.takeWhile_cons_of_neg (by simp), List.append_nil]
  have after : (x ++ Bytes.ofChar char :: y).dropWhile (· != Bytes.ofChar char) =
      Bytes.ofChar char :: y := by
    rw [List.dropWhile_append_of_pos kept, List.dropWhile_cons_of_neg (by simp)]
  simp only [upTo, before, after]

/-- A payload without the end of a pair ends where the pair does. -/
theorem upToTerminator_append (absent : hasTerminator x = false) :
    upToTerminator ⟨o, x ++ (terminator ++ y)⟩ = .ok (⟨o, x⟩, ⟨o + x.length + 2, y⟩) := by
  have none : Bytes.offsetOfPairFrom (Bytes.ofChar ']') (Bytes.ofChar ';') 0 x = none := by
    simpa [hasTerminator, Bytes.offsetOfPair?] using absent
  have found := offsetOfPairFrom_append y none
  have ends : terminator ++ y = Bytes.ofChar ']' :: Bytes.ofChar ';' :: y := by
    rw [terminator_eq]
    rfl
  rw [Nat.zero_add] at found
  simp only [upToTerminator, ends, Bytes.offsetOfPair?, found]
  simp [List.drop_append]

theorem eatAll?_append {mark : Bytes} :
    eatAll? mark ⟨o, mark ++ y⟩ = some ⟨o + mark.length, y⟩ := by
  have rest : mark.isPrefixOf? (mark ++ y) = some y := by
    induction mark with
    | nil => cases y <;> rfl
    | cons b mark ih =>
      change (if b == b then mark.isPrefixOf? (mark ++ y) else none) = some y
      rw [if_pos (beq_self_eq_true b), ih]
  rw [eatAll?, rest]
  rfl

end Cursor

/-! ## Blocks -/

theorem openBlock_append {o : Nat} {y : Bytes} :
    openBlock ⟨o, openBraces ++ y⟩ = .ok ⟨o + 3, y⟩ := by
  rw [openBraces_eq]
  rfl

section Pairs

variable {α ι : Type} {reader : PairReader α} {kind : Block} {o : Nat} {y : Bytes}

/-- The pairs end at a closing brace. -/
theorem pairs_brace (o : Nat) (y : Bytes) :
    pairs reader kind ⟨o, Bytes.ofChar '\x7d' :: y⟩ = .ok ([], closeBlock ⟨o + 1, y⟩) := by
  have here : Cursor.skipBlanks ⟨o, Bytes.ofChar '\x7d' :: y⟩ = ⟨o, Bytes.ofChar '\x7d' :: y⟩ :=
    Cursor.skipBlanks_cons (by decide)
  rw [pairs]
  split
  · next h => rw [here] at h; cases h
  · next b rest h =>
    rw [here] at h ⊢
    obtain ⟨rfl, rfl⟩ := List.cons.inj h
    rfl

theorem pairs_close : pairs reader kind ⟨o, closeBraces ++ y⟩ = .ok ([], ⟨o + 3, y⟩) := by
  rw [closeBraces_eq]
  exact pairs_brace o _

theorem pairs_open {next : Cursor} {a : α} (read : reader.read ⟨o + 1, y⟩ = .ok (a, next)) :
    pairs reader kind ⟨o, Bytes.ofChar '[' :: y⟩ =
      (pairs reader kind next).map fun found => (a :: found.1, found.2) := by
  have here : Cursor.skipBlanks ⟨o, Bytes.ofChar '[' :: y⟩ = ⟨o, Bytes.ofChar '[' :: y⟩ :=
    Cursor.skipBlanks_cons (by decide)
  rw [pairs]
  split
  · next h => rw [here] at h; cases h
  · next b rest h =>
    -- the match on the visible rest keeps its equation, so the rest is rewritten in a copy
    have same := h
    rw [here] at same
    obtain ⟨rfl, rfl⟩ := List.cons.inj same
    rw [if_pos rfl]
    split
    · next fault failed =>
      rw [here, read] at failed
      cases failed
    · next a next read' =>
      rw [here, read] at read'
      cases read'
      split
      · next failed =>
        rw [failed]
        rfl
      · next found =>
        rw [found]
        rfl

/-- The reader takes exactly the bytes `x`, whatever follows them, and finds what has the property
`found`. -/
def PairReader.Takes (reader : PairReader α) (x : Bytes) (found : α → Prop) : Prop :=
  ∀ o y, ∃ a n, found a ∧ reader.read ⟨o, x ++ y⟩ = .ok (a, ⟨n, y⟩)

/-- A block of written pairs is read pair by pair, to its end, as the `reader` takes them. -/
theorem pairs_flatMap {items : List ι} {written : ι → Bytes} {found : ι → α → Prop}
    (takes : ∀ i ∈ items, reader.Takes (written i) (found i)) (o : Nat) (y : Bytes) :
    ∃ as n, List.Forall₂ found items as ∧
      pairs reader kind
        ⟨o, (items.flatMap fun i => Bytes.ofChar '[' :: written i) ++ (closeBraces ++ y)⟩ =
          .ok (as, ⟨n, y⟩) := by
  induction items generalizing o with
  | nil => exact ⟨[], _, .nil, pairs_close⟩
  | cons i items ih =>
    obtain ⟨a, n, related, read⟩ := takes i List.mem_cons_self (o + 1)
      ((items.flatMap fun i => Bytes.ofChar '[' :: written i) ++ (closeBraces ++ y))
    obtain ⟨as, m, relateds, rest⟩ := ih (fun j mem => takes j (List.mem_cons_of_mem i mem)) n
    refine ⟨a :: as, m, .cons related relateds, ?_⟩
    rw [List.flatMap_cons, List.append_assoc, List.cons_append, pairs_open read, rest]
    rfl

/-- A block of written pairs from its opening braces on. -/
theorem block_flatMap (kind : Block) {items : List ι} {written : ι → Bytes} {found : ι → α → Prop}
    (takes : ∀ i ∈ items, reader.Takes (written i) (found i)) (o : Nat) (y : Bytes) :
    ∃ as n, List.Forall₂ found items as ∧
      block reader kind ⟨o, openBraces ++
        ((items.flatMap fun i => Bytes.ofChar '[' :: written i) ++ (closeBraces ++ y))⟩ =
          .ok (as, ⟨n, y⟩) := by
  obtain ⟨as, n, related, read⟩ := pairs_flatMap takes (o + 3) y
  refine ⟨as, n, related, ?_⟩
  rw [block, openBlock_append]
  exact read

end Pairs

end Parcel.Delimited
