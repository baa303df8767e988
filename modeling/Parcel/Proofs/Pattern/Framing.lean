import Parcel.Pattern
import Parcel.Proofs.Pattern.Steps

/-!
# Patterns in their frame

A pattern is framed as text, before anyone knows whether it is well formed. What comes of it is
still what the pattern means by itself between two assertions, as long as the frame and the pattern
do not meddle with each other: no parenthesis of the pattern closes the group of the frame, and no
comment of the pattern takes in the parenthesis of the frame.

## Main definitions

* `Pattern.Reads` — reading without a limit
* `Pattern.Strays` — a parenthesis that closes no group of the pattern
* `Pattern.readPiece?` — the piece that a pattern makes, whatever its size

## Main results

* `Pattern.steps?_eq_some_iff` — reading with enough fuel
* `Pattern.readPiece?_eq_none_of_strays` — patterns with a stray parenthesis are not well formed
* `Pattern.readPiece?_frame` — what the frame makes of a pattern
-/

namespace Parcel.Pattern

variable {st st' last final : State} {s : List Char}

/-! ## Reading -/

/-- Reading a text part by part to its end. -/
inductive Reads : State → List Char → State → Prop where
  /-- Nothing is left of `s`. -/
  | done {st : State} {s : List Char} (nothing : skip st.flags.spaced s = []) : Reads st s st
  /-- One more part. -/
  | step {st st' last : State} {s rest rest' : List Char} {c : Char}
    (skipped : skip st.flags.spaced s = c :: rest) (stepped : step? st c rest = some (st', rest'))
    (reads : Reads st' rest' last) : Reads st s last

/-- Every `step?` takes a character. -/
theorem length_lt_of_step? {fuel : Nat} {c : Char} {rest rest' : List Char}
    (enough : s.length < fuel + 1) (skipped : skip st.flags.spaced s = c :: rest)
    (stepped : step? st c rest = some (st', rest')) : rest'.length < fuel := by
  have length := length_skip_le st.flags.spaced s
  have suffix := ((steady_step? st c rest).suffix stepped).length_le
  rw [skipped, List.length_cons] at length
  omega

/-- Fuel beyond the length does not show: `steps?` finds what `Reads` relates. -/
theorem steps?_eq_some_iff {fuel : Nat} (enough : s.length < fuel) :
    steps? fuel st s = some last ↔ Reads st s last := by
  induction fuel generalizing st s with
  | zero => exact absurd enough (Nat.not_lt_zero _)
  | succ fuel ih =>
    rw [steps?]
    cases skipped : skip st.flags.spaced s with
    | nil =>
      constructor
      · rintro ⟨⟩
        exact .done skipped
      · rintro (_ | ⟨found, -, -⟩)
        · rfl
        · rw [skipped] at found
          cases found
    | cons c rest =>
      have shorter {st' : State} {rest' : List Char}
          (stepped : step? st c rest = some (st', rest')) : rest'.length < fuel :=
        length_lt_of_step? enough skipped stepped
      constructor
      · intro read
        obtain ⟨⟨st', rest'⟩, stepped, read⟩ := Option.bind_eq_some_iff.1 read
        exact .step skipped stepped ((ih (shorter stepped)).1 read)
      · rintro (nothing | ⟨found, stepped, reads⟩)
        · rw [skipped] at nothing
          cases nothing
        · rw [skipped] at found
          cases found
          exact Option.bind_eq_some_iff.2 ⟨_, stepped, (ih (shorter stepped)).2 reads⟩

theorem Reads.of_skip_eq {u : List Char} (reads : Reads st s last)
    (same : skip st.flags.spaced u = skip st.flags.spaced s) : Reads st u last := by
  cases reads with
  | done nothing => exact .done (same.trans nothing)
  | step skipped stepped reads => exact .step (same.trans skipped) stepped reads

/-- A step that is known can be taken back. -/
theorem reads_iff_of_step {c : Char} {rest rest' : List Char}
    (skipped : skip st.flags.spaced s = c :: rest) (stepped : step? st c rest = some (st', rest')) :
    Reads st s last ↔ Reads st' rest' last := by
  constructor
  · rintro (nothing | ⟨found, taken, reads⟩)
    · rw [skipped] at nothing
      cases nothing
    · rw [skipped] at found
      cases found
      rw [stepped] at taken
      cases taken
      exact reads
  · exact .step skipped stepped

/-- A parenthesis closes nothing where no group is open. -/
theorem step?_close (outside : st.levels = []) (rest : List Char) : step? st ')' rest = none := by
  change st.closeGroup?.map _ = none
  rw [State.closeGroup?, outside]
  rfl

/-- A closing parenthesis is met where no group is open. -/
inductive Strays : State → List Char → Prop where
  /-- It comes next. -/
  | here {st : State} {s rest : List Char} (next : skip st.flags.spaced s = ')' :: rest)
    (outside : st.levels = []) : Strays st s
  /-- It comes later. -/
  | later {st st' : State} {s rest rest' : List Char} {c : Char}
    (skipped : skip st.flags.spaced s = c :: rest) (stepped : step? st c rest = some (st', rest'))
    (strays : Strays st' rest') : Strays st s

/-- Reading does not get past a parenthesis that `Strays`. -/
theorem Strays.not_reads (strays : Strays st s) : ¬Reads st s last := by
  intro reads
  induction strays with
  | here next outside =>
    cases reads with
    | done nothing => exact absurd (next.symm.trans nothing) (by simp)
    | step skipped stepped =>
      obtain ⟨rfl, rfl⟩ := List.cons.inj (next.symm.trans skipped)
      exact absurd ((step?_close outside _).symm.trans stepped) (by simp)
  | later skipped stepped _ ih => exact ih ((reads_iff_of_step skipped stepped).1 reads)

/-- Looks for such a parenthesis, with fuel that is more than the length. -/
def straysWithin : Nat → State → List Char → Bool
  | 0, _, _ => false
  | fuel + 1, st, s =>
    match skip st.flags.spaced s with
    | [] => false
    | c :: rest =>
      (c == ')' && st.levels.isEmpty) ||
        (step? st c rest).any fun (st', rest') => straysWithin fuel st' rest'

theorem straysWithin_iff {fuel : Nat} (enough : s.length < fuel) :
    straysWithin fuel st s ↔ Strays st s := by
  induction fuel generalizing st s with
  | zero => exact absurd enough (Nat.not_lt_zero _)
  | succ fuel ih =>
    rw [straysWithin]
    cases skipped : skip st.flags.spaced s with
    | nil =>
      refine ⟨fun never => (by cases never), ?_⟩
      rintro (⟨next, -⟩ | ⟨found, -, -⟩)
      · exact absurd (skipped.symm.trans next) (by simp)
      · exact absurd (skipped.symm.trans found) (by simp)
    | cons c rest =>
      have shorter {st' : State} {rest' : List Char}
          (stepped : step? st c rest = some (st', rest')) : rest'.length < fuel :=
        length_lt_of_step? enough skipped stepped
      rw [Bool.or_eq_true, Bool.and_eq_true, beq_iff_eq, List.isEmpty_iff, Option.any_eq_true]
      constructor
      · rintro (⟨rfl, outside⟩ | ⟨⟨st', rest'⟩, stepped, strays⟩)
        · exact .here skipped outside
        · exact .later skipped stepped ((ih (shorter stepped)).1 strays)
      · rintro (⟨next, outside⟩ | ⟨found, stepped, strays⟩)
        · obtain ⟨rfl, -⟩ := List.cons.inj (skipped.symm.trans next)
          exact .inl ⟨rfl, outside⟩
        · obtain ⟨rfl, rfl⟩ := List.cons.inj (skipped.symm.trans found)
          exact .inr ⟨_, stepped, (ih (shorter stepped)).2 strays⟩

instance (st : State) (s : List Char) : Decidable (Strays st s) :=
  decidable_of_iff _ (straysWithin_iff (Nat.lt_succ_self s.length))

/-- Where reading begins. -/
def initial : State := ⟨{}, [], [], [], [], 0⟩

/-- The piece that a pattern makes, whatever its size. -/
def readPiece? (s : List Char) : Option Piece := do
  let st ← steps? (s.length + 1) initial s
  if st.levels.isEmpty then some st.group else none

/-- Whether a piece is within the limits of patterns. -/
def Piece.isAllowed (p : Piece) : Bool := p.depth ≤ depthLimit && p.expression.fits

theorem read?_eq (s : List Char) :
    read? s = (readPiece? s).bind fun p => if p.isAllowed then some p.expression else none := by
  rw [read?, readPiece?]
  change (steps? (s.length + 1) initial s).bind _ =
    ((steps? (s.length + 1) initial s).bind _).bind _
  cases steps? (s.length + 1) initial s with
  | none => rfl
  | some st =>
    simp only [Option.bind_some]
    cases st.levels <;> rfl

theorem readPiece?_eq_some_iff {p : Piece} :
    readPiece? s = some p ↔ ∃ st, Reads initial s st ∧ st.levels = [] ∧ st.group = p := by
  rw [readPiece?]
  constructor
  · intro read
    obtain ⟨st, read, made⟩ := Option.bind_eq_some_iff.1 read
    refine ⟨st, (steps?_eq_some_iff (Nat.lt_succ_self _)).1 read, ?_⟩
    split at made
    · next closed => exact ⟨List.isEmpty_iff.1 closed, Option.some.inj made⟩
    · cases made
  · rintro ⟨st, reads, closed, rfl⟩
    refine Option.bind_eq_some_iff.2 ⟨st, (steps?_eq_some_iff (Nat.lt_succ_self _)).2 reads, ?_⟩
    exact if_pos (List.isEmpty_iff.2 closed)

/-- A pattern with a stray parenthesis is not well formed: `readPiece?` gives none. -/
theorem readPiece?_eq_none_of_strays (strays : Strays initial s) : readPiece? s = none := by
  refine Option.eq_none_iff_forall_ne_some.2 fun p read => ?_
  obtain ⟨last, reads, -, -⟩ := readPiece?_eq_some_iff.1 read
  exact strays.not_reads reads

/-! ## Inside another group -/

/-- The state inside one more group, `base`, outside of all others. -/
def State.within (base : Level) (st : State) : State := { st with levels := st.levels ++ [base] }

variable {base : Level}

theorem State.levels_within_ne_nil : (st.within base).levels ≠ [] :=
  List.append_ne_nil_of_right_ne_nil _ (List.cons_ne_nil base [])

theorem openNamed?_within (base : Level) (name : List Char) (st : State) :
    (st.within base).openNamed? name = (st.openNamed? name).map (·.within base) := by
  rw [State.openNamed?, State.openNamed?]
  change (if st.names.contains name then none else _) = _
  split <;> rfl

theorem change?_within (base : Level) (p : Flags × List Char × Option Char) (st : State) :
    (st.within base).change? p = (st.change? p).map (·.within base) := by
  rw [State.change?, State.change?]
  split
  · split <;> rfl
  · rfl

theorem repeat?_within (base : Level) (least : Nat) (most : Option Nat) (marked : Bool)
    (st : State) :
    (st.within base).repeat? least most marked =
      (st.repeat? least most marked).map (·.within base) := by
  obtain ⟨flags, pieces, _, _, _, _⟩ := st
  cases pieces with
  | nil => rfl
  | cons p pieces =>
    simp only [State.repeat?, State.within]
    split <;> rfl

/-- What is read inside of a group does not depend on the level `base` outside. -/
theorem group?_within (base : Level) (st : State) (s : List Char) :
    group? (st.within base) s = (group? st s).map fun p => (p.1.within base, p.2) := by
  have named (s : List Char) :
      named? (st.within base) s = (named? st s).map fun p => (p.1.within base, p.2) := by
    rw [named?, named?]
    cases groupName? s with
    | none => rfl
    | some p =>
      simp only [Option.bind_some, openNamed?_within, Option.map_map]
      rfl
  have flagged (s : List Char) :
      flagged? (st.within base) s = (flagged? st s).map fun p => (p.1.within base, p.2) := by
    rw [flagged?, flagged?]
    change (signed? st.flags true [] s).bind _ = _
    cases signed? st.flags true [] s with
    | none => rfl
    | some p =>
      simp only [Option.bind_some, change?_within, Option.map_map]
      rfl
  rw [group?_eq, group?_eq]
  change (if (skip st.flags.spaced s).head? = some '?' then
    marked? (st.within base) (skip st.flags.spaced s).tail else _) = _
  -- without a question mark the group is opened at once, and that is the same by definition
  split
  · rw [marked?, marked?, named, named, flagged]
    split
    · rfl
    · split
      · rfl
      · split <;> rfl
  · rfl

theorem repeated?_within (base : Level) (st : State) (least : Nat) (most : Option Nat)
    (s : List Char) : repeated? (st.within base) least most s =
      (repeated? st least most s).map fun p => (p.1.within base, p.2) := by
  simp only [repeated?, Option.bind_some, repeat?_within, Option.map_map]
  rfl

theorem closeGroup?_within (base : Level) {st : State} (inside : st.levels ≠ []) :
    (st.within base).closeGroup? = st.closeGroup?.map (·.within base) := by
  obtain ⟨_, _, _, levels, _, _⟩ := st
  cases levels with
  | nil => exact absurd rfl inside
  | cons level levels => rfl

theorem addAtom?_within (base : Level) (atom : Atom) (st : State) :
    (st.within base).addAtom? atom = (st.addAtom? atom).map (·.within base) := by
  rw [State.addAtom?, State.addAtom?, Option.map_map]
  rfl

/-- A step is the same inside another group at `base`, unless it closes that. -/
theorem step?_within (base : Level) {st : State} {c : Char} (own : c = ')' → st.levels ≠ [])
    (s : List Char) :
    step? (st.within base) c s = (step? st c s).map fun p => (p.1.within base, p.2) := by
  -- only a closing parenthesis looks at the levels around the current one
  by_cases close : c = ')'
  · subst close
    change (st.within base).closeGroup?.map (·, s) = (st.closeGroup?.map (·, s)).map _
    rw [closeGroup?_within base (own rfl), Option.map_map, Option.map_map]
    rfl
  · unfold step?
    simp only [step?_atom, addAtom?_within]
    split
    · exact group?_within base st s
    · exact absurd rfl close
    · rfl
    · exact repeated?_within base st 0 (some 1) s
    · exact repeated?_within base st 0 none s
    · exact repeated?_within base st 1 none s
    · change (bounds? st.flags.spaced s).bind (fun p =>
        repeated? (st.within base) p.1 p.2.1 (skip st.flags.spaced p.2.2)) =
          ((bounds? st.flags.spaced s).bind fun p =>
            repeated? st p.1 p.2.1 (skip st.flags.spaced p.2.2)).map _
      simp only [repeated?_within]
      cases bounds? st.flags.spaced s <;> rfl
    · change (bracket? st.flags s).bind _ = ((bracket? st.flags s).bind _).map _
      cases bracket? st.flags s <;> rfl
    · rfl
    · rfl
    · change (escape? st.flags s).bind _ = ((escape? st.flags s).bind _).map _
      cases escape? st.flags s with
      | none => rfl
      | some p =>
        simp only [Option.bind_some, Option.map_map]
        rfl
    · rw [Option.map_map, Option.map_map]
      rfl
    · rw [Option.map_map, Option.map_map]
      rfl

/-- Closing the last group inside another one. -/
theorem closeGroup?_base (base : Level) {st : State} (outside : st.levels = []) :
    (st.within base).closeGroup? = some { st with
      flags := base.flags
      pieces := ⟨base.number.elim st.group.expression fun n => .group n st.group.expression,
        st.group.depth + 1, true⟩ :: base.pieces
      alternatives := base.alternatives } := by
  obtain ⟨_, _, _, levels, _, _⟩ := st
  obtain rfl : levels = [] := outside
  rfl

/-! ## The end of the frame -/

theorem skip_nil (spaced : Bool) : skip spaced [] = [] := by
  cases spaced <;> rfl

theorem eq_of_reads_nil (reads : Reads st [] last) : last = st := by
  cases reads with
  | done => rfl
  | step skipped =>
    rw [skip_nil] at skipped
    cases skipped

theorem eq_of_reads_dollar (reads : Reads st ['$'] last) :
    last = st.add (.simple (.assertion st.flags.lineEnd)) :=
  eq_of_reads_nil ((reads_iff_of_step (skip_dollar _) rfl).1 reads)

/-- What is left of the frame after a part that has touched its end. -/
theorem cases_of_suffix {u : List Char} (suffix : u <:+ s ++ closing) :
    (∃ v, u = v ++ closing) ∨ u = ['$'] ∨ u = [] := by
  rcases List.suffix_or_suffix_of_suffix suffix (List.suffix_append s closing) with short | ⟨v, rfl⟩
  · have short : u = closing ∨ u = ['$'] ∨ u = [] := by
      simpa [closing, List.suffix_cons_iff] using short
    exact short.imp (fun eq => ⟨[], eq⟩) id
  · exact .inl ⟨v, rfl⟩

/-- No group is closed any more when the closing parenthesis is gone. -/
theorem levels_of_short {u : List Char} (short : u = ['$'] ∨ u = []) (reads : Reads st u last) :
    last.levels = st.levels := by
  rcases short with rfl | rfl
  · rw [eq_of_reads_dollar reads]
    rfl
  · rw [eq_of_reads_nil reads]

theorem count?_closing (spaced : Bool) : count? spaced closing = some (none, closing) := by
  have dropped : closing.dropWhile Unicode.isBlank = closing := by decide
  have taken : run spaced Decimal.isDigit closing = ([], closing) := by
    rw [closing, run]
    rfl
  rw [count?, dropped, taken]
  simp only [dropped, skip_closing]
  rfl

theorem count?_nil (spaced : Bool) : count? spaced [] = some (none, []) := by
  have taken : run spaced Decimal.isDigit [] = ([], []) := by rw [run]
  rw [count?, List.dropWhile_nil, taken]
  simp only [List.dropWhile_nil, skip_nil]
  rfl

/-- A brace that only the end of the frame follows begins no repetition. -/
theorem step?_dangles {rest : List Char} (st : State) (nothing : skip st.flags.spaced rest = []) :
    step? st '\x7b' (rest ++ closing) = none := by
  have none : bounds? st.flags.spaced (rest ++ closing) = none := by
    have counted : count? st.flags.spaced (skip st.flags.spaced (rest ++ closing)) =
        some (none, skip st.flags.spaced (rest ++ closing)) := by
      rcases skip_append st.flags.spaced rest with framed | ⟨-, framed⟩
      · rw [framed, nothing]
        exact count?_closing st.flags.spaced
      · rw [framed]
        exact count?_nil st.flags.spaced
    rw [bounds?, counted]
    rfl
  change (bounds? st.flags.spaced (rest ++ closing)).bind _ = _
  rw [none]
  rfl

/-! ## What the frame makes of a pattern -/

/-- What surrounds the group of the frame. -/
def frameLevel : Level := ⟨none, {}, [.simple (.assertion .textStart)], []⟩

/-- A piece between the two assertions of the frame. -/
def Piece.framed (p : Piece) : Piece :=
  joinPieces [.simple (.assertion .textEnd), ⟨p.expression, p.depth + 1, true⟩,
    .simple (.assertion .textStart)]

/-- The state after the end of the frame. -/
def State.framed (st : State) : State :=
  { st with
    flags := {}
    pieces := [.simple (.assertion .textEnd), ⟨st.group.expression, st.group.depth + 1, true⟩,
      .simple (.assertion .textStart)]
    alternatives := [] }

/-- Reading goes on from behind the start of the `frame`. -/
theorem reads_frame_iff (source : String) : Reads initial (frame source) last ↔
    Reads (initial.within frameLevel) (source.toList ++ closing) last := by
  have skips (c : Char) (rest : List Char) : skip false (c :: rest) = c :: rest := rfl
  have started (u : List Char) : step? initial '^' u =
      some (initial.add (.simple (.assertion .textStart)), u) := rfl
  have opened (u : List Char) : step? (initial.add (.simple (.assertion .textStart))) '('
      ('?' :: ':' :: u) = some (initial.within frameLevel, u) := rfl
  have framed : frame source = '^' :: '(' :: '?' :: ':' :: (source.toList ++ closing) := by
    rw [frame]
    rfl
  rw [framed, reads_iff_of_step (skips _ _) (started _), reads_iff_of_step (skips _ _) (opened _)]

/-- At the end of the pattern the frame is closed, if no group of the pattern is open. -/
theorem reads_closing_iff (outside : st.levels = []) :
    Reads (st.within frameLevel) closing last ↔ last = st.framed := by
  have skips : skip (st.within frameLevel).flags.spaced [')', '$'] = [')', '$'] := skip_closing _
  have closed : step? (st.within frameLevel) ')' ['$'] = some ({ st with
      flags := {}
      pieces := [⟨st.group.expression, st.group.depth + 1, true⟩,
        .simple (.assertion .textStart)]
      alternatives := [] }, ['$']) := by
    change (st.within frameLevel).closeGroup?.map _ = _
    rw [closeGroup?_base frameLevel outside]
    rfl
  rw [closing, reads_iff_of_step skips closed, reads_iff_of_step (skip_dollar _) rfl]
  constructor
  · exact fun reads => eq_of_reads_nil reads
  · rintro rfl
    exact .done (skip_nil _)

/-- If a group of the pattern is open, the end of the frame closes that one instead. -/
theorem levels_ne_nil_of_reads_closing (inside : st.levels ≠ [])
    (reads : Reads (st.within frameLevel) closing last) : last.levels ≠ [] := by
  have skips : skip (st.within frameLevel).flags.spaced [')', '$'] = [')', '$'] := skip_closing _
  obtain ⟨flags, pieces, alternatives, levels, names, groups⟩ := st
  cases levels with
  | nil => exact absurd rfl inside
  | cons level levels =>
    rw [closing, reads_iff_of_step skips rfl] at reads
    rw [levels_of_short (.inl rfl) reads]
    exact List.append_ne_nil_of_right_ne_nil levels (List.cons_ne_nil frameLevel [])

/-- Where a pattern `Reads` to the end in its frame, it does so by itself. -/
theorem exists_of_reads_within (own : ¬Strays st s)
    (reads : Reads (st.within frameLevel) (s ++ closing) final) (closed : final.levels = []) :
    ∃ last, Reads st s last ∧ last.levels = [] ∧ final = last.framed := by
  generalize inside : st.within frameLevel = st₀ at reads
  generalize framed : s ++ closing = s₀ at reads
  -- on the reading in the frame, which the reading of the pattern goes along with until the
  -- pattern is at its end
  induction reads generalizing st s with
  | done =>
    subst inside
    exact absurd closed State.levels_within_ne_nil
  | @step st₀ st₁ final s₀ rest rest₁ c skipped stepped reads ih =>
    subst inside framed
    cases here : skip st.flags.spaced s with
    | nil =>
      -- the parenthesis of the frame comes next
      have same : skip st.flags.spaced closing = skip st.flags.spaced (s ++ closing) := by
        rcases skip_append st.flags.spaced s with eq | ⟨-, eq⟩
        · rw [eq, here, skip_closing]
          rfl
        · exact absurd (eq.symm.trans skipped) (by simp)
      have reads := (Reads.step skipped stepped reads).of_skip_eq same
      by_cases outside : st.levels = []
      · -- it closes the group of the frame
        exact ⟨st, .done here, outside, (reads_closing_iff outside).1 reads⟩
      · exact absurd closed (levels_ne_nil_of_reads_closing outside reads)
    | cons d rest' =>
      have next := skip_append_of_cons here
      obtain ⟨rfl, rfl⟩ := List.cons.inj (skipped.symm.trans next)
      have inside (close : c = ')') : st.levels ≠ [] := by
        rintro outside
        subst close
        exact own (.here here outside)
      rw [step?_within frameLevel inside] at stepped
      obtain ⟨⟨st', rest₁⟩, taken, eq⟩ := Option.map_eq_some_iff.1 stepped
      obtain ⟨rfl, rfl⟩ := Prod.mk.inj eq
      have steady := steady_step? st c
      rcases cases_of_suffix ((steady _).suffix taken) with ⟨u, rfl⟩ | short
      · rcases (steady rest').alone taken with alone | ⟨v, rfl, nothing⟩
        · obtain ⟨last, reads, outside, eq⟩ :=
            ih (fun strays => own (.later here alone strays)) closed rfl rfl
          exact ⟨last, .step here alone reads, outside, eq⟩
        · -- a brace that only the frame follows
          have skips : skip (st'.within frameLevel).flags.spaced (('\x7b' :: v) ++ closing) =
              '\x7b' :: (v ++ closing) := by
            change skip st'.flags.spaced _ = _
            cases st'.flags.spaced <;> rfl
          have refused : step? (st'.within frameLevel) '\x7b' (v ++ closing) = none :=
            step?_dangles (st'.within frameLevel) nothing
          cases reads with
          | done nothing => exact absurd (skips.symm.trans nothing) (by simp)
          | step skipped stepped =>
            obtain ⟨rfl, rfl⟩ := List.cons.inj (skips.symm.trans skipped)
            exact absurd (refused.symm.trans stepped) (by simp)
      · -- the part has taken the parenthesis of the frame, and nothing else closes the group
        rw [levels_of_short short reads] at closed
        exact absurd closed State.levels_within_ne_nil

/-- Where a pattern `Reads` to the end by itself, it does so in its frame, unless it ends in a
comment. -/
theorem reads_within (reads : Reads st s last) (outside : last.levels = [])
    (kept : ¬Reads st (s ++ closing) last) :
    Reads (st.within frameLevel) (s ++ closing) last.framed := by
  induction reads with
  | @done st s nothing =>
    rcases skip_append st.flags.spaced s with framed | ⟨-, framed⟩
    · refine ((reads_closing_iff outside).2 rfl).of_skip_eq ?_
      change skip st.flags.spaced _ = skip st.flags.spaced _
      rw [framed, nothing, skip_closing]
      rfl
    · -- the end of the frame is in a comment
      exact absurd (.done framed) kept
  | @step st st' last s rest rest' c skipped stepped reads ih =>
    have next := skip_append_of_cons skipped
    have inside (close : c = ')') : st.levels ≠ [] := by
      rintro empty
      subst close
      exact absurd ((step?_close empty rest).symm.trans stepped) (by simp)
    -- a part that takes in the frame would have the pattern go on behind its end
    rcases (steady_step? st c rest).framed stepped with taken | ⟨rfl, taken⟩
    · have later := ih outside fun reads => kept (.step next taken reads)
      refine .step (c := c) next ?_ later
      rw [step?_within frameLevel inside, taken]
      rfl
    · exact absurd (.step next taken reads) kept

/-- The `frame` makes a framed piece of a pattern that makes a piece by itself, and nothing of a
pattern that makes none: unless a parenthesis of the pattern `Strays`, or the pattern goes on
reading behind its end. -/
theorem readPiece?_frame {source : String} (own : ¬Strays initial source.toList)
    (kept : (readPiece? source.toList).isSome → readPiece? (source.toList ++ closing) = none) :
    readPiece? (frame source) = (readPiece? source.toList).map Piece.framed := by
  refine Option.ext fun p => ?_
  rw [Option.map_eq_some_iff, readPiece?_eq_some_iff]
  constructor
  · rintro ⟨final, reads, closed, rfl⟩
    obtain ⟨last, alone, outside, rfl⟩ :=
      exists_of_reads_within own ((reads_frame_iff source).1 reads) closed
    exact ⟨last.group, readPiece?_eq_some_iff.2 ⟨last, alone, outside, rfl⟩, rfl⟩
  · rintro ⟨q, read, rfl⟩
    obtain ⟨last, reads, outside, rfl⟩ := readPiece?_eq_some_iff.1 read
    refine ⟨last.framed, (reads_frame_iff source).2 (reads_within reads outside ?_), outside, rfl⟩
    intro swallowed
    have some := readPiece?_eq_some_iff.2 ⟨last, swallowed, outside, rfl⟩
    rw [kept (by rw [read]; rfl)] at some
    cases some

end Parcel.Pattern
