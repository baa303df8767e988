import Parcel.Proofs.Delimited.Scanning

/-!
# Blocks laid out freely

A block may have white space around its equals sign, before every pair, before its closing brace
and after it; its braces may be single or doubled, and its semicolon may be missing. The scanner
finds the same pairs in every such layout, and what follows the block once the white space is
skipped.

What the scanner takes when it is there and leaves when it is not must not be taken from what comes
next. A second opening brace is looked for where a pair or the closing brace may stand; a second
closing brace and a semicolon where the next block may.

## Main definitions

* `Delimited.Gap` — a run of white space
* `Delimited.Layout` — how a block is laid out around its pairs
* `Delimited.spaced` — pairs one after the other, each behind white space
* `Delimited.Detached` — what may follow a block

## Main results

* `Delimited.openBlock_opening`, `Delimited.skipBlanks_closeBlock` — the ends of a block
* `Delimited.block_spaced` — a block in any layout is read pair by pair
-/

namespace Parcel.Delimited

/-! ## White space -/

/-- A run of white space. -/
structure Gap where
  /-- The bytes. -/
  bytes : Bytes
  /-- All of them are white space. -/
  blank : bytes.all Bytes.isBlank

namespace Cursor

variable {o : Nat} {b : UInt8} {y : Bytes}

theorem skipBlanks_blank (blank : Bytes.isBlank b = true) :
    skipBlanks ⟨o, b :: y⟩ = skipBlanks ⟨o + 1, y⟩ := by
  rw [skipBlanks, skipBlanksFrom, if_pos blank]
  rfl

theorem skipBlanks_gap (w : Gap) (o : Nat) (y : Bytes) :
    skipBlanks ⟨o, w.bytes ++ y⟩ = skipBlanks ⟨o + w.bytes.length, y⟩ := by
  obtain ⟨s, blank⟩ := w
  dsimp only
  induction s generalizing o with
  | nil => rfl
  | cons b s ih =>
    rw [List.all_cons, Bool.and_eq_true] at blank
    rw [List.cons_append, skipBlanks_blank blank.1, ih (o + 1) blank.2, List.length_cons,
      Nat.add_assoc, Nat.add_comm 1]

/-- There is nothing to skip where there is no white space. -/
theorem skipBlanks_eq_self (visible : ∀ b ∈ y.head?, Bytes.isBlank b = false) :
    skipBlanks ⟨o, y⟩ = ⟨o, y⟩ := by
  cases y with
  | nil => rfl
  | cons b y => exact skipBlanks_cons (visible b rfl)

/-- A visible character is found by `expect` behind white space. -/
theorem expect_gap {char : Char} (visible : Bytes.isBlank (Bytes.ofChar char) = false) (w : Gap)
    (o : Nat) (y : Bytes) :
    (skipBlanks ⟨o, w.bytes ++ Bytes.ofChar char :: y⟩).expect char =
      .ok ⟨o + w.bytes.length + 1, y⟩ := by
  rw [skipBlanks_gap, skipBlanks_cons visible, expect, eat?]
  simp only [if_true]

end Cursor

/-! ## Braces and semicolons -/

section Optional

variable {b : UInt8} {y : Bytes} {o : Nat}

theorem eatOptional_cons : Cursor.eatOptional b ⟨o, b :: y⟩ = ⟨o + 1, y⟩ := by
  simp [Cursor.eatOptional, Cursor.eat?]

theorem eatOptional_eq_self (different : y.head? ≠ some b) :
    Cursor.eatOptional b ⟨o, y⟩ = ⟨o, y⟩ := by
  cases y with
  | nil => rfl
  | cons x y =>
    have other : x ≠ b := fun eq => different (congrArg some eq)
    simp [Cursor.eatOptional, Cursor.eat?, other]

/-- The byte `b`, if it is `present`. -/
def optional (present : Bool) (b : UInt8) : Bytes := if present then [b] else []

/-- The byte `b` is taken when it is there, and otherwise nothing of what follows. -/
theorem eatOptional_optional (different : y.head? ≠ some b) (present : Bool) (o : Nat) :
    ∃ n, Cursor.eatOptional b ⟨o, optional present b ++ y⟩ = ⟨n, y⟩ := by
  cases present with
  | true => exact ⟨o + 1, eatOptional_cons⟩
  | false => exact ⟨o, eatOptional_eq_self different⟩

end Optional

/-- How a block is laid out around its pairs. -/
structure Layout where
  /-- White space before the equals sign. -/
  beforeEquals : Gap
  /-- White space after the equals sign. -/
  afterEquals : Gap
  /-- Whether the opening brace is doubled. -/
  doublyOpened : Bool
  /-- White space before the closing brace. -/
  beforeClosing : Gap
  /-- Whether the closing brace is doubled. -/
  doublyClosed : Bool
  /-- White space before the semicolon. -/
  beforeSemicolon : Gap
  /-- Whether there is a semicolon. -/
  semicolon : Bool
  /-- White space after the block. -/
  after : Gap

namespace Layout

/-- What stands between the mark and the pairs. -/
def opening (l : Layout) : Bytes :=
  l.beforeEquals.bytes ++ Bytes.ofChar '=' ::
    (l.afterEquals.bytes ++ Bytes.ofChar '\x7b' :: optional l.doublyOpened (Bytes.ofChar '\x7b'))

/-- What stands behind the first closing brace. -/
def ending (l : Layout) : Bytes :=
  optional l.doublyClosed (Bytes.ofChar '\x7d') ++ (l.beforeSemicolon.bytes ++
    (optional l.semicolon (Bytes.ofChar ';') ++ l.after.bytes))

/-- What stands behind the pairs. -/
def closing (l : Layout) : Bytes := l.beforeClosing.bytes ++ Bytes.ofChar '\x7d' :: l.ending

/-- A block with its `mark` and what is `inside` its braces. -/
def around (l : Layout) (mark inside : Bytes) : Bytes :=
  mark ++ (l.opening ++ (inside ++ l.closing))

end Layout

/-- What may follow a block: nothing, or something that is neither white space nor one of the
characters that a block may end with. -/
def Detached (y : Bytes) : Prop :=
  ∀ b ∈ y.head?, Bytes.isBlank b = false ∧ b ≠ Bytes.ofChar '\x7d' ∧ b ≠ Bytes.ofChar ';'

/-- A byte that starts neither white space nor what is behind it starts none of the two together. -/
theorem head?_gap_ne {w : Gap} {b : UInt8} {y : Bytes} (visible : Bytes.isBlank b = false)
    (different : y.head? ≠ some b) : (w.bytes ++ y).head? ≠ some b := by
  obtain ⟨s, blank⟩ := w
  cases s with
  | nil => exact different
  | cons x s =>
    intro eq
    obtain rfl := Option.some.inj eq
    rw [List.all_cons, Bool.and_eq_true, visible] at blank
    cases blank.1

section Ends

variable {y : Bytes}

/-- The opening of a block in the layout `l` is read up to its pairs. -/
theorem openBlock_opening (l : Layout) (different : y.head? ≠ some (Bytes.ofChar '\x7b'))
    (o : Nat) :
    ∃ n, openBlock ⟨o, l.opening ++ y⟩ = .ok ⟨n, y⟩ := by
  have bytes_eq : l.opening ++ y = l.beforeEquals.bytes ++ Bytes.ofChar '=' ::
      (l.afterEquals.bytes ++ Bytes.ofChar '\x7b' ::
        (optional l.doublyOpened (Bytes.ofChar '\x7b') ++ y)) := by
    simp [Layout.opening]
  obtain ⟨n, brace⟩ := eatOptional_optional different l.doublyOpened
    (o + l.beforeEquals.bytes.length + 1 + l.afterEquals.bytes.length + 1)
  refine ⟨n, ?_⟩
  rw [openBlock, bytes_eq, Cursor.expect_gap (by decide)]
  change (Cursor.skipBlanks ⟨_, _⟩).expect '\x7b' >>= _ = _
  rw [Cursor.expect_gap (by decide)]
  exact congrArg Except.ok brace

/-- The end of a block in the layout `l` is read up to what follows it, but for white space. -/
theorem skipBlanks_closeBlock (l : Layout) (detached : Detached y) (o : Nat) :
    (closeBlock ⟨o, l.ending ++ y⟩).skipBlanks.rest = y := by
  have visible : ∀ b ∈ y.head?, Bytes.isBlank b = false := fun b mem => (detached b mem).1
  have unbraced : y.head? ≠ some (Bytes.ofChar '\x7d') := fun eq => (detached _ eq).2.1 rfl
  have unmarked : y.head? ≠ some (Bytes.ofChar ';') := fun eq => (detached _ eq).2.2 rfl
  have bytes_eq : l.ending ++ y = optional l.doublyClosed (Bytes.ofChar '\x7d') ++
      (l.beforeSemicolon.bytes ++ (optional l.semicolon (Bytes.ofChar ';') ++
        (l.after.bytes ++ y))) := by
    simp [Layout.ending]
  have brace : (l.beforeSemicolon.bytes ++ (optional l.semicolon (Bytes.ofChar ';') ++
      (l.after.bytes ++ y))).head? ≠ some (Bytes.ofChar '\x7d') := by
    refine head?_gap_ne (by decide) ?_
    cases l.semicolon with
    | true => exact (by decide : some (Bytes.ofChar ';') ≠ some (Bytes.ofChar '\x7d'))
    | false => exact head?_gap_ne (by decide) unbraced
  obtain ⟨n, closed⟩ := eatOptional_optional brace l.doublyClosed o
  rw [closeBlock, bytes_eq, closed, Cursor.skipBlanks_gap]
  cases l.semicolon with
  | true =>
    -- the semicolon is visible, so the white space before it ends there
    change (Cursor.eatOptional _ (Cursor.skipBlanks
      ⟨_, Bytes.ofChar ';' :: (l.after.bytes ++ y)⟩)).skipBlanks.rest = y
    rw [Cursor.skipBlanks_cons (by decide), eatOptional_cons, Cursor.skipBlanks_gap,
      Cursor.skipBlanks_eq_self visible]
  | false =>
    -- without it the two runs of white space are one
    change (Cursor.eatOptional _ (Cursor.skipBlanks ⟨_, l.after.bytes ++ y⟩)).skipBlanks.rest = y
    rw [Cursor.skipBlanks_gap, Cursor.skipBlanks_eq_self visible, eatOptional_eq_self unmarked,
      Cursor.skipBlanks_eq_self visible]

end Ends

/-! ## Pairs -/

section Pairs

variable {α ι : Type} {reader : PairReader α} {kind : Block}

/-- Pairs are read from behind the white space. -/
theorem pairs_congr {c d : Cursor} (same : c.skipBlanks = d.skipBlanks) :
    pairs reader kind c = pairs reader kind d := by
  rw [pairs, pairs]
  -- the places themselves are not looked at, so they can be forgotten
  revert same
  generalize c.skipBlanks = here
  rintro rfl
  rfl

theorem pairs_gap (w : Gap) (o : Nat) (y : Bytes) :
    pairs reader kind ⟨o, w.bytes ++ y⟩ = pairs reader kind ⟨o + w.bytes.length, y⟩ :=
  pairs_congr (Cursor.skipBlanks_gap w o y)

/-- The pairs of `items` one after the other, each behind white space. -/
def spaced (inside : ι → Bytes) (items : List (Gap × ι)) : Bytes :=
  items.flatMap fun i => i.1.bytes ++ Bytes.ofChar '[' :: inside i.2

variable {items : List (Gap × ι)} {inside : ι → Bytes} {found : ι → α → Prop} {y : Bytes}

/-- What is inside a block starts with white space, a pair or the closing brace. -/
theorem head?_spaced_closing (inside : ι → Bytes) (items : List (Gap × ι)) (l : Layout)
    (y : Bytes) :
    (spaced inside items ++ (l.closing ++ y)).head? ≠ some (Bytes.ofChar '\x7b') := by
  have visible : Bytes.isBlank (Bytes.ofChar '\x7b') = false := by decide
  cases items with
  | nil =>
    rw [Layout.closing, List.append_assoc]
    exact head?_gap_ne visible fun eq => absurd (Option.some.inj eq) (by decide)
  | cons i items =>
    rw [spaced, List.flatMap_cons, List.append_assoc, List.append_assoc]
    exact head?_gap_ne visible fun eq => absurd (Option.some.inj eq) (by decide)

theorem pairs_spaced (takes : ∀ i ∈ items, reader.Takes (inside i.2) (found i.2)) (l : Layout)
    (detached : Detached y) (o : Nat) :
    ∃ as c, List.Forall₂ (fun i a => found i.2 a) items as ∧ c.skipBlanks.rest = y ∧
      pairs reader kind ⟨o, spaced inside items ++ (l.closing ++ y)⟩ = .ok (as, c) := by
  induction items generalizing o with
  | nil =>
    refine ⟨[], _, .nil, skipBlanks_closeBlock l detached (o + l.beforeClosing.bytes.length + 1),
      ?_⟩
    rw [spaced, List.flatMap_nil, List.nil_append, Layout.closing, List.append_assoc, pairs_gap]
    exact pairs_brace _ _
  | cons i items ih =>
    obtain ⟨a, n, related, read⟩ := takes i List.mem_cons_self (o + i.1.bytes.length + 1)
      (spaced inside items ++ (l.closing ++ y))
    obtain ⟨as, c, relateds, next, rest⟩ := ih (fun j mem => takes j (List.mem_cons_of_mem i mem)) n
    refine ⟨a :: as, c, .cons related relateds, next, ?_⟩
    have bytes_eq : spaced inside (i :: items) ++ (l.closing ++ y) = i.1.bytes ++
        Bytes.ofChar '[' :: (inside i.2 ++ (spaced inside items ++ (l.closing ++ y))) := by
      simp [spaced]
    rw [bytes_eq, pairs_gap, pairs_open read, rest]
    rfl

/-- A block in the layout `l` is read pair by pair, as the `reader` takes them, up to what follows
it but for white space. -/
theorem block_spaced (kind : Block) (found : ι → α → Prop)
    (takes : ∀ i ∈ items, reader.Takes (inside i.2) (found i.2)) (l : Layout)
    (detached : Detached y) (o : Nat) :
    ∃ as c, List.Forall₂ (fun i a => found i.2 a) items as ∧ c.skipBlanks.rest = y ∧
      block reader kind ⟨o, l.opening ++ (spaced inside items ++ (l.closing ++ y))⟩ =
        .ok (as, c) := by
  obtain ⟨n, opened⟩ := openBlock_opening l (head?_spaced_closing inside items l y) o
  obtain ⟨as, c, related, next, read⟩ := pairs_spaced takes l detached n
  refine ⟨as, c, related, next, ?_⟩
  rw [block, opened]
  exact read

end Pairs

end Parcel.Delimited
