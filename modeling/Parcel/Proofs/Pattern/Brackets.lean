import Parcel.Proofs.Pattern.Steady

/-!
# Bracketed sets at the end of a pattern

The set after an opening bracket is the same with the end of the frame behind the pattern. Members
of brackets are not: at the end of a text they are refused, and before the closing parenthesis they
are taken. But a bracket still has to be closed behind them.

## Main results

* `Pattern.steady_bracket?` — bracketed sets
-/

namespace Parcel.Pattern

variable {α : Type} {flags : Flags} {s : List Char}

/-- At the end of a text. -/
def AtEnd : α → List Char → Prop := fun _ r => r = []

/-- What is read behind a text that is refused is `AtEnd`. -/
theorem atEnd_of_closing {a b : α} {r : List Char}
    (found : some (a, closing) = some (b, r ++ closing)) : AtEnd b r := by
  rw [Option.some.injEq, Prod.mk.injEq] at found
  exact List.self_eq_append_left.1 found.2

/-! ## Separators -/

theorem isPrefixOf_append_closing {separator : List Char} (foreign : ∀ d ∈ separator, d ∉ closing)
    (s : List Char) : separator.isPrefixOf (s ++ closing) = separator.isPrefixOf s := by
  induction separator generalizing s with
  | nil => rfl
  | cons d separator ih =>
    obtain ⟨other, foreign⟩ := List.forall_mem_cons.1 foreign
    cases s with
    | nil =>
      have differ : (d == ')') = false := by
        rw [beq_eq_false_iff_ne]
        rintro rfl
        exact other (by decide)
      rw [List.nil_append, closing, List.isPrefixOf_cons_cons, differ]
      rfl
    | cons c s =>
      rw [List.cons_append, List.isPrefixOf_cons_cons, ih foreign, List.isPrefixOf_cons_cons]

/-- A `separator` that has nothing of the end of the frame is found before it. -/
theorem splitAt?_append {d : Char} {separator : List Char}
    (foreign : ∀ e ∈ d :: separator, e ∉ closing) (s : List Char) :
    splitAt? (d :: separator) (s ++ closing) =
      (splitAt? (d :: separator) s).map fun p => (p.1, p.2 ++ closing) := by
  have cut := isPrefixOf_append_closing foreign
  induction s with
  | nil =>
    have first : (d :: separator).isPrefixOf [')', '$'] = false := cut []
    have second : (d :: separator).isPrefixOf ['$'] = false := by
      have differ : (d == '$') = false := by
        rw [beq_eq_false_iff_ne]
        rintro rfl
        exact foreign '$' List.mem_cons_self (by decide)
      rw [List.isPrefixOf_cons_cons, differ]
      rfl
    simp [closing, splitAt?, first, second]
  | cons c s ih =>
    rw [List.cons_append, splitAt?, splitAt?, ← List.cons_append, cut, ih]
    split
    · next found =>
      have fits := (List.isPrefixOf_iff_prefix.1 found).length_le
      rw [List.drop_append_of_le_length fits]
      rfl
    · cases splitAt? (d :: separator) s <;> rfl

theorem splitAt?_suffix {separator before after : List Char}
    (found : splitAt? separator s = some (before, after)) : after <:+ s := by
  induction s generalizing before with
  | nil => cases found
  | cons c s ih =>
    rw [splitAt?] at found
    split at found
    · obtain rfl := (Prod.mk.inj (Option.some.inj found)).2
      exact List.drop_suffix _ _
    · obtain ⟨p, later, eq⟩ := Option.map_eq_some_iff.1 found
      obtain rfl := (Prod.mk.inj eq).2
      exact (ih later).trans (List.suffix_cons c s)

/-! ## Named classes -/

/-- The class of a name between colons. -/
def asciiName? (negated : Bool) (s : List Char) : Option (Bool × CharSet × List Char) :=
  (splitAt? [':', ']'] s).bind fun p =>
    if p.1.contains ':' then none
    else (CharSet.ofAsciiName? p.1).map fun set => (negated, set, p.2)

theorem asciiClass?_colon (s : List Char) : asciiClass? ('[' :: ':' :: s) =
    if s.head? = some '^' then asciiName? true s.tail else asciiName? false s := by
  have named (negated : Bool) (u : List Char) : ((splitAt? [':', ']'] u).bind fun p =>
      if p.1.contains ':' then none
      else (CharSet.ofAsciiName? p.1).bind fun set => some (negated, set, p.2)) =
      asciiName? negated u := by
    refine congrArg _ (funext fun p => ?_)
    split
    · rfl
    · cases CharSet.ofAsciiName? p.1 <;> rfl
  cases s with
  | nil => exact named false []
  | cons c rest =>
    by_cases caret : c = '^'
    · subst caret
      exact named true rest
    · rw [if_neg (by simpa using caret), ← named, asciiClass?]
      · rfl
      · rintro rest ⟨⟩
        exact caret rfl

theorem asciiClass?_eq_none (other : ∀ rest, s ≠ '[' :: ':' :: rest) : asciiClass? s = none := by
  unfold asciiClass?
  split
  · exact absurd rfl (other _)
  · rfl

theorem asciiName?_append (negated : Bool) (s : List Char) : asciiName? negated (s ++ closing) =
    (asciiName? negated s).map fun p => (p.1, p.2.1, p.2.2 ++ closing) := by
  rw [asciiName?, asciiName?, splitAt?_append (by simp [closing])]
  cases splitAt? [':', ']'] s with
  | none => rfl
  | some p =>
    simp only [Option.map_some, Option.bind_some]
    split
    · rfl
    · cases CharSet.ofAsciiName? p.1 <;> rfl

theorem asciiName?_suffix {negated : Bool} {p : Bool × CharSet × List Char}
    (found : asciiName? negated s = some p) : p.2.2 <:+ s := by
  obtain ⟨⟨name, rest⟩, split, found⟩ := Option.bind_eq_some_iff.1 found
  split at found
  · cases found
  · obtain ⟨set, -, rfl⟩ := Option.map_eq_some_iff.1 found
    exact splitAt?_suffix split

/-- A named class is one with the end of the frame behind it or without. -/
theorem asciiClass?_append (s : List Char) :
    asciiClass? (s ++ closing) =
      (asciiClass? s).map fun p => (p.1, p.2.1, p.2.2 ++ closing) := by
  by_cases colon : ∃ rest, s = '[' :: ':' :: rest
  · obtain ⟨rest, rfl⟩ := colon
    rw [List.cons_append, List.cons_append, asciiClass?_colon, asciiClass?_colon,
      asciiName?_append]
    cases rest with
    | nil => rfl
    | cons c rest =>
      rw [List.cons_append, List.head?_cons, List.head?_cons, List.tail_cons, List.tail_cons,
        asciiName?_append]
      split <;> rfl
  · have framed (rest : List Char) : s ++ closing ≠ '[' :: ':' :: rest := by
      rintro eq
      match s, eq with
      | [_], eq => simp [closing] at eq
      | c :: d :: s, eq =>
        simp only [List.cons_append, List.cons.injEq] at eq
        exact colon ⟨s, by rw [eq.1, eq.2.1]⟩
    rw [asciiClass?_eq_none framed, asciiClass?_eq_none fun rest eq => colon ⟨rest, eq⟩]
    rfl

theorem asciiClass?_suffix {p : Bool × CharSet × List Char} (found : asciiClass? s = some p) :
    p.2.2 <:+ s.tail := by
  by_cases colon : ∃ rest, s = '[' :: ':' :: rest
  · obtain ⟨rest, rfl⟩ := colon
    rw [asciiClass?_colon] at found
    split at found
    · exact ((asciiName?_suffix found).trans (List.tail_suffix rest)).trans (List.suffix_cons _ _)
    · exact (asciiName?_suffix found).trans (List.suffix_cons _ _)
  · rw [asciiClass?_eq_none fun rest eq => colon ⟨rest, eq⟩] at found
    cases found

/-! ## The start of a bracket -/

namespace Bracket

/-- A member of one character. -/
def literal (c : Char) : Nested := ⟨.single c, 0⟩

/-- The start of a bracket after the dashes. -/
def begin? (flags : Flags) (negated : Bool) (dashes : List Char) :
    List Char → Option (Bracket × List Char)
  | [] => none
  | ']' :: rest =>
    if !dashes.isEmpty then some (⟨negated, none, dashes.map literal⟩, ']' :: rest)
    else match skip flags.spaced rest with
      | [] => none
      | rest => some ((⟨negated, none, dashes.map literal⟩ : Bracket).add (literal ']'), rest)
  | s => some (⟨negated, none, dashes.map literal⟩, s)

theorem begin?_cons {c : Char} (other : c ≠ ']') (negated : Bool) (dashes rest : List Char) :
    begin? flags negated dashes (c :: rest) =
      some (⟨negated, none, dashes.map literal⟩, c :: rest) := by
  unfold begin?
  split
  · next eq => cases eq
  · next eq => exact absurd (List.cons.inj eq).1 other
  · rfl

/-- Whether the sign of the complement comes first, and what follows. -/
def sign (spaced : Bool) : List Char → Bool × List Char
  | '^' :: rest => (true, skip spaced rest)
  | s => (false, s)

theorem sign_cons {c : Char} (other : c ≠ '^') (spaced : Bool) (rest : List Char) :
    sign spaced (c :: rest) = (false, c :: rest) := by
  unfold sign
  split
  · next eq => exact absurd (List.cons.inj eq).1 other
  · rfl

theorem open?_eq (s : List Char) : open? flags s =
    (some (sign flags.spaced (skip flags.spaced s))).bind fun p =>
      (some (run flags.spaced (· == '-') p.2)).bind fun q => begin? flags p.1 q.1 q.2 := by
  have begins (p : Bool × List Char) (q : List Char × List Char) : (match q.2 with
      | [] => none
      | ']' :: rest =>
        if !q.1.isEmpty then some (⟨p.1, none, q.1.map literal⟩, q.2)
        else match skip flags.spaced rest with
          | [] => none
          | rest => some ((⟨p.1, none, q.1.map literal⟩ : Bracket).add (literal ']'), rest)
      | s => some (⟨p.1, none, q.1.map literal⟩, s)) = begin? flags p.1 q.1 q.2 := by
    obtain ⟨dashes, u⟩ := q
    cases u with
    | nil => rfl
    | cons c rest =>
      by_cases close : c = ']'
      · subst close
        rfl
      · rw [begin?_cons close]
        split
        · next eq => cases eq
        · next eq => exact absurd (List.cons.inj eq).1 close
        · rfl
  simp only [Option.bind_some, ← begins]
  rfl

end Bracket

theorem steady_sign (spaced : Bool) : Steady Never fun s => some (Bracket.sign spaced s) := by
  intro s
  cases s with
  | nil => exact (steady_pure false []).congr rfl rfl
  | cons c rest =>
    by_cases caret : c = '^'
    · subst caret
      exact (steady_pure true (skip spaced rest)).skipping.cons rfl rfl
    · exact (steady_pure false (c :: rest)).congr
        (congrArg some (Bracket.sign_cons caret spaced rest))
        (congrArg some (Bracket.sign_cons caret spaced (rest ++ closing)))

/-- Something has to follow white space. -/
theorem steady_more (spaced : Bool) (a : α) : Steady AtEnd fun s => match skip spaced s with
    | [] => none
    | rest => some (a, rest) := by
  refine Steady.of_skip spaced (fun s => by simp only [skip_skip]) fun s skipped => ?_
  cases s with
  | nil =>
    refine .of_none (by rw [skipped]) fun b r found => ?_
    rw [List.nil_append, skip_closing] at found
    exact atEnd_of_closing found
  | cons c rest =>
    refine (steady_pure a (c :: rest)).congr (by rw [skipped]) ?_
    rw [skip_append_of_skipped skipped]
    rfl

/-- The start of a bracket. What comes first is a member whatever it is, but something has to
come. -/
theorem steady_begin? (flags : Flags) (negated : Bool) (dashes : List Char) :
    Steady AtEnd (Bracket.begin? flags negated dashes) := by
  intro s
  cases s with
  | nil => exact .of_none rfl fun a r found => atEnd_of_closing found
  | cons c rest =>
    have plain := steady_pure (X := AtEnd)
      (⟨negated, none, dashes.map Bracket.literal⟩ : Bracket) (c :: rest)
    by_cases close : c = ']'
    · subst close
      cases dashed : dashes.isEmpty with
      | false =>
        refine plain.congr ?_ ?_
        · simp only [Bracket.begin?, dashed]
          rfl
        · simp only [Bracket.begin?, List.cons_append, dashed]
          rfl
      | true =>
        let b : Bracket := ⟨negated, none, dashes.map Bracket.literal⟩
        refine (steady_more flags.spaced (b.add (Bracket.literal ']')) rest).cons ?_ ?_ <;>
          rw [Bracket.begin?, dashed] <;> rfl
    · exact plain.congr (Bracket.begin?_cons close ..) (Bracket.begin?_cons close ..)

/-- A bracket after it has opened. -/
theorem steady_open? (flags : Flags) : Steady AtEnd (Bracket.open? flags) := by
  intro s
  have signed := (steady_sign flags.spaced (skip flags.spaced s)).skipping
  have begins (negated : Bool) : Steady AtEnd fun s =>
      (some (run flags.spaced (· == '-') s)).bind fun q => Bracket.begin? flags negated q.1 q.2 :=
    fun s => (steady_run flags.spaced rfl s).andThen (steady_begin? flags negated)
  exact (signed.andThen begins).congr (Bracket.open?_eq s) (Bracket.open?_eq _)

/-! ## Members -/

/-- One atom between brackets. -/
theorem steady_member? (flags : Flags) : Steady (AtBrace flags) (member? flags) := by
  intro s
  cases s with
  | nil => exact SteadyAt.of_touched (a := .literal ')' false) rfl rfl
  | cons c rest =>
    by_cases backslash : c = '\\'
    · subst backslash
      exact (steady_escape? flags rest).cons rfl rfl
    · refine (steady_pure (.literal c false) rest).cons ?_ ?_ <;>
      · unfold member?
        split
        · next eq => cases eq
        · next eq => exact absurd (List.cons.inj eq).1 backslash
        · next eq =>
          cases eq
          rfl

theorem ahead?_append (spaced : Bool) (s : List Char) :
    ahead? spaced (s ++ closing) = (ahead? spaced s).or (some ')') := by
  cases spaced with
  | false => exact List.head?_append
  | true =>
    simp only [ahead?, Bool.not_true, Bool.false_eq_true, if_false]
    rw [dropWhile_append_closing]
    generalize s.dropWhile Unicode.isBlank = u
    cases u with
    | nil => rfl
    | cons c u =>
      by_cases comment : c = '#'
      · subst comment
        simp only [List.cons_append]
        rw [dropWhile_append_closing]
        exact List.head?_append
      · rw [List.cons_append]
        split
        · next eq => exact absurd (List.cons.inj eq).1 comment
        · split
          · next eq => exact absurd (List.cons.inj eq).1 comment
          · rfl

/-- Whether a dash stands for itself. -/
def isPlainDash (spaced : Bool) (rest : List Char) : Bool :=
  ahead? spaced rest == some ']' || ahead? spaced rest == some '-'

theorem isPlainDash_append (spaced : Bool) (rest : List Char) :
    isPlainDash spaced (rest ++ closing) = isPlainDash spaced rest := by
  rw [isPlainDash, isPlainDash, ahead?_append]
  cases ahead? spaced rest <;> rfl

/-- The end of a range. -/
def rangeEnd? (flags : Flags) (first last : Atom) : Option CharSet :=
  (first.memberChar? flags).bind fun low => (last.memberChar? flags).bind fun high =>
    if high.toNat < low.toNat then none else some (.range low.toNat high.toNat)

/-- A member or a range that begins with the atom `first`. -/
def rangeFrom? (flags : Flags) (first : Atom) (s : List Char) : Option (CharSet × List Char) :=
  match skip flags.spaced s with
  | [] => none
  | c :: rest =>
    if c == '-' && !isPlainDash flags.spaced rest then
      (member? flags (skip flags.spaced rest)).bind fun p =>
        (rangeEnd? flags first p.1).map (·, p.2)
    else (first.memberSet? flags).map (·, c :: rest)

theorem memberRange?_eq (flags : Flags) (s : List Char) :
    memberRange? flags s = (member? flags s).bind fun p => rangeFrom? flags p.1 p.2 := by
  have range (first : Atom) (u : List Char) : ((member? flags u).bind fun p =>
      (first.memberChar? flags).bind fun low => (p.1.memberChar? flags).bind fun high =>
        if high.toNat < low.toNat then none
        else some (CharSet.range low.toNat high.toNat, p.2)) =
      (member? flags u).bind fun p => (rangeEnd? flags first p.1).map (·, p.2) := by
    refine congrArg _ (funext fun p => ?_)
    simp only [rangeEnd?]
    cases first.memberChar? flags with
    | none => rfl
    | some low =>
      cases p.1.memberChar? flags with
      | none => rfl
      | some high =>
        simp only [Option.bind]
        split <;> rfl
  have single (first : Atom) (u : List Char) : (do return (← first.memberSet? flags, u)) =
      (first.memberSet? flags).map (·, u) := by
    cases first.memberSet? flags <;> rfl
  rw [memberRange?]
  refine congrArg _ (funext fun p => ?_)
  obtain ⟨first, u⟩ := p
  simp only [rangeFrom?, ← range, ← single]
  -- what follows the first member decides whether it begins a range
  cases skip flags.spaced u with
  | nil => rfl
  | cons c rest =>
    simp only
    by_cases dash : c = '-'
    · subst dash
      simp only [beq_self_eq_true, Bool.true_and, isPlainDash]
      generalize ahead? flags.spaced rest = next
      split
      · rfl
      · rfl
      · next plain dashed =>
        have other : (next == some ']' || next == some '-') = false := by
          rw [Bool.or_eq_false_iff, beq_eq_false_iff_ne, beq_eq_false_iff_ne]
          exact ⟨plain, dashed⟩
        rw [other]
        rfl
    · have other : (c == '-') = false := beq_eq_false_iff_ne.2 dash
      rw [other]
      split
      · next eq => cases eq
      · next eq => exact absurd (List.cons.inj eq).1 dash
      · rfl

theorem rangeEnd?_assertion (flags : Flags) (first : Atom) (x : Assertion) :
    rangeEnd? flags first (.assertion x) = none := by
  rw [rangeEnd?]
  cases first.memberChar? flags <;> rfl

/-- An assertion is no member. -/
theorem rangeFrom?_assertion (flags : Flags) (x : Assertion) (s : List Char) :
    rangeFrom? flags (.assertion x) s = none := by
  unfold rangeFrom?
  split
  · rfl
  · split
    · cases member? flags _ <;> rfl
    · rfl

theorem rangeFrom?_cons (flags : Flags) (first : Atom) (c : Char) (rest : List Char)
    (skipped : skip flags.spaced (c :: rest) = c :: rest) :
    rangeFrom? flags first (c :: rest) =
      if c == '-' && !isPlainDash flags.spaced rest then
        (member? flags (skip flags.spaced rest)).bind fun p =>
          (rangeEnd? flags first p.1).map (·, p.2)
      else (first.memberSet? flags).map (·, c :: rest) := by
  rw [rangeFrom?, skipped]

/-- A member or a range, behind which something has to follow. -/
theorem steady_rangeFrom? (flags : Flags) (first : Atom) :
    Steady AtEnd (rangeFrom? flags first) := by
  refine Steady.of_skip flags.spaced (fun s => by simp only [rangeFrom?, skip_skip])
    fun s skipped => ?_
  cases s with
  | nil =>
    refine .of_none (by rw [rangeFrom?, skipped]) fun set r found => ?_
    rw [List.nil_append, closing, rangeFrom?_cons _ _ _ _ (skip_closing _)] at found
    obtain ⟨set', -, found⟩ := Option.map_eq_some_iff.1 found
    exact atEnd_of_closing (congrArg some found)
  | cons c rest =>
    have framed := rangeFrom?_cons flags first c (rest ++ closing) (skip_append_of_cons skipped)
    rw [isPlainDash_append] at framed
    cases range : c == '-' && !isPlainDash flags.spaced rest with
    | true =>
      have read := (steady_member? flags (skip flags.spaced rest)).skipping.filterMap
        (rangeEnd? flags first) (Y := AtEnd) ?_
      · refine read.cons ?_ ?_
        · rw [rangeFrom?_cons _ _ _ _ skipped, if_pos range]
        · rw [framed, if_pos range]
      · rintro a r set ⟨⟨x, rfl⟩, -⟩ found
        rw [rangeEnd?_assertion] at found
        cases found
    | false =>
      refine (steady_option (first.memberSet? flags) (c :: rest)).congr ?_ ?_
      · rw [rangeFrom?_cons _ _ _ _ skipped, range]
        rfl
      · rw [List.cons_append, framed, range]
        rfl

/-- One atom or a range. -/
theorem steady_memberRange? (flags : Flags) : Steady AtEnd (memberRange? flags) := by
  intro s
  refine (SteadyAt.bind (steady_member? flags s) (steady_rangeFrom? flags) ?_).congr
    (memberRange?_eq flags s) (memberRange?_eq flags _)
  rintro a r ⟨⟨x, rfl⟩, -⟩ set q found
  rw [rangeFrom?_assertion] at found
  cases found

/-! ## Brackets -/

/-- The operation of a sign that stands twice. -/
def SetOperation.ofSigns? (c : Char) (rest : List Char) : Option SetOperation :=
  if rest.head? = some c then
    if c = '&' then some .inter else if c = '-' then some .diff
    else if c = '~' then some .symm else none
  else none

theorem SetOperation.ofSigns?_append (c : Char) (rest : List Char) :
    ofSigns? c (rest ++ closing) = ofSigns? c rest := by
  cases rest with
  | nil =>
    by_cases paren : c = ')'
    · subst paren
      rfl
    · have other : ¬some ')' = some c := fun eq => paren (Option.some.inj eq).symm
      exact if_neg other
  | cons d rest => rfl

theorem SetOperation.exists_of_ofSigns? {c : Char} {rest : List Char} {op : SetOperation}
    (signs : ofSigns? c rest = some op) : ∃ rest', rest = c :: rest' := by
  rw [ofSigns?] at signs
  split at signs
  · next twice => exact List.head?_eq_some_iff.1 twice
  · cases signs

/-- The brackets after a named class. -/
def afterClass? (flags : Flags) (fuel : Nat) (b : Bracket) (outer : List Bracket)
    (p : Bool × CharSet × List Char) : Option (Nested × List Char) :=
  (flags.negate? p.1 (flags.fold p.2.1)).bind fun set =>
    brackets? flags fuel (b.add ⟨set, 0⟩) outer p.2.2

/-- The brackets after one that closes. -/
def afterClose? (flags : Flags) (fuel : Nat) (closed : Nested) (rest : List Char) :
    List Bracket → Option (Nested × List Char)
  | [] => some (closed, rest)
  | b :: outer => brackets? flags fuel (b.add closed) outer rest

theorem brackets?_cons (flags : Flags) (fuel : Nat) (b : Bracket) (outer : List Bracket) (c : Char)
    (rest : List Char) (skipped : skip flags.spaced (c :: rest) = c :: rest) :
    brackets? flags (fuel + 1) b outer (c :: rest) =
      if c = ']' then
        (b.close? flags).bind fun closed => afterClose? flags fuel closed rest outer
      else if c = '[' then
        match asciiClass? ('[' :: rest) with
        | some p => afterClass? flags fuel b outer p
        | none => (Bracket.open? flags rest).bind fun p =>
          brackets? flags fuel p.1 (b :: outer) p.2
      else match SetOperation.ofSigns? c rest with
        | some op => brackets? flags fuel (b.operate flags op) outer rest.tail
        | none => (memberRange? flags (c :: rest)).bind fun p =>
          brackets? flags fuel (b.add ⟨p.1, 0⟩) outer p.2 := by
  rw [brackets?, skipped]
  by_cases close : c = ']'
  · subst close
    rfl
  · by_cases opens : c = '['
    · subst opens
      rw [if_neg (by decide), if_pos rfl]
      simp only
      cases asciiClass? ('[' :: rest) <;> rfl
    · rw [if_neg close, if_neg opens]
      split
      · next eq => cases eq
      · next eq => exact absurd (List.cons.inj eq).1 close
      · next eq => exact absurd (List.cons.inj eq).1 opens
      · next eq =>
        cases eq
        rfl
      · next eq =>
        cases eq
        rfl
      · next eq =>
        cases eq
        rfl
      · next inter diff symm =>
        -- two equal signs in a row would have been one of the three operations
        have plain : SetOperation.ofSigns? c rest = none := by
          rw [SetOperation.ofSigns?]
          split
          · next twice =>
            obtain ⟨rest', rfl⟩ := List.head?_eq_some_iff.1 twice
            rw [if_neg, if_neg, if_neg]
            · rintro rfl
              exact symm rest' rfl
            · rintro rfl
              exact diff rest' rfl
            · rintro rfl
              exact inter rest' rfl
          · rfl
        rw [plain]
        rfl

theorem brackets?_dollar (flags : Flags) (fuel : Nat) (b : Bracket) (outer : List Bracket) :
    brackets? flags fuel b outer ['$'] = none := by
  have last : memberRange? flags ['$'] = none := by
    have nothing : skip flags.spaced [] = [] := by cases flags.spaced <;> rfl
    rw [memberRange?_eq]
    exact (congrArg (rangeFrom? flags (.literal '$' false)) nothing.symm).trans
      (by rw [rangeFrom?, skip_skip, nothing])
  cases fuel with
  | zero => rfl
  | succ fuel =>
    have alone : SetOperation.ofSigns? '$' [] = none := rfl
    rw [brackets?_cons _ _ _ _ _ _ (skip_dollar _), if_neg (by decide), if_neg (by decide), alone,
      last]
    rfl

/-- The end of the frame closes no bracket. -/
theorem brackets?_closing (flags : Flags) (fuel : Nat) (b : Bracket) (outer : List Bracket) :
    brackets? flags fuel b outer closing = none := by
  cases fuel with
  | zero => rfl
  | succ fuel =>
    have alone : SetOperation.ofSigns? ')' ['$'] = none := rfl
    have read : memberRange? flags [')', '$'] =
        ((Atom.literal ')' false).memberSet? flags).map (·, ['$']) := by
      rw [memberRange?_eq]
      exact rangeFrom?_cons flags (.literal ')' false) '$' [] (skip_dollar _)
    rw [closing, brackets?_cons _ _ _ _ _ _ (skip_closing _), if_neg (by decide),
      if_neg (by decide), alone, read]
    cases (Atom.literal ')' false).memberSet? flags with
    | none => rfl
    | some set => exact brackets?_dollar ..

theorem steady_brackets? (flags : Flags) (fuel : Nat) (b : Bracket) (outer : List Bracket) :
    Steady Never (brackets? flags fuel b outer) := by
  induction fuel generalizing b outer with
  | zero => exact steady_none
  | succ fuel ih =>
    -- the members and the starts of brackets that are taken at the end of a text are followed by
    -- the end of the frame, which closes no bracket
    have unclosed {α : Type} (b : α → Bracket) (outer : List Bracket) (a : α) (r : List Char)
        (last : AtEnd a r) (n : Nested) (q : List Char) :
        brackets? flags fuel (b a) outer (r ++ closing) = some (n, q ++ closing) → Never n q := by
      obtain rfl : r = [] := last
      rw [List.nil_append, brackets?_closing]
      rintro ⟨⟩
    refine Steady.of_skip flags.spaced (fun s => by simp only [brackets?, skip_skip])
      fun s skipped => ?_
    cases s with
    | nil =>
      refine .of_none (by rw [brackets?, skipped]) fun a r found => ?_
      rw [List.nil_append, brackets?_closing] at found
      cases found
    | cons c rest =>
      have here := brackets?_cons flags fuel b outer c rest skipped
      have framed := brackets?_cons flags fuel b outer c (rest ++ closing)
        (skip_append_of_cons skipped)
      by_cases close : c = ']'
      · rw [if_pos close] at here framed
        refine SteadyAt.cons (g := fun rest => (b.close? flags).bind fun closed =>
          afterClose? flags fuel closed rest outer) ?_ here framed
        cases b.close? flags with
        | none => exact steady_none rest
        | some closed =>
          cases outer with
          | nil => exact steady_pure closed rest
          | cons b outer => exact ih (b.add closed) outer rest
      · rw [if_neg close] at here framed
        by_cases opens : c = '['
        · subst opens
          rw [if_pos rfl] at here framed
          have class_append := asciiClass?_append ('[' :: rest)
          rw [List.cons_append] at class_append
          rw [class_append] at framed
          cases named : asciiClass? ('[' :: rest) with
          | some p =>
            rw [named] at here framed
            refine SteadyAt.of_suffix (g := fun u => afterClass? flags fuel b outer (p.1, p.2.1, u))
              ?_ ((asciiClass?_suffix named).trans (List.suffix_cons '[' rest)) here framed
            cases negated : flags.negate? p.1 (flags.fold p.2.1) with
            | none =>
              refine (steady_none p.2.2).congr ?_ ?_ <;> simp only [afterClass?, negated] <;> rfl
            | some set =>
              refine (ih (b.add ⟨set, 0⟩) outer p.2.2).congr ?_ ?_ <;>
                simp only [afterClass?, negated] <;> rfl
          | none =>
            -- a bracket inside the bracket
            rw [named] at here framed
            refine ((steady_open? flags rest).bind (fun inner => ih inner (b :: outer)) ?_).cons
              here framed
            exact unclosed id (b :: outer)
        · rw [if_neg opens] at here framed
          rw [SetOperation.ofSigns?_append] at framed
          cases signs : SetOperation.ofSigns? c rest with
          | some op =>
            rw [signs] at here framed
            obtain ⟨rest', rfl⟩ := SetOperation.exists_of_ofSigns? signs
            refine (ih (b.operate flags op) outer rest').of_suffix ?_ here framed
            exact (List.suffix_cons c rest').trans (List.suffix_cons c _)
          | none =>
            rw [signs] at here framed
            refine ((steady_memberRange? flags (c :: rest)).bind
              (fun set => ih (b.add ⟨set, 0⟩) outer) ?_).congr here framed
            exact unclosed (fun set => b.add ⟨set, 0⟩) outer

/-- A member takes a character at least. -/
theorem memberRange?_suffix {c : Char} {rest r : List Char} {set : CharSet}
    (found : memberRange? flags (c :: rest) = some (set, r)) : r <:+ rest := by
  rw [memberRange?_eq] at found
  obtain ⟨⟨first, u⟩, read, found⟩ := Option.bind_eq_some_iff.1 found
  refine ((steady_rangeFrom? flags first u).suffix found).trans ?_
  by_cases backslash : c = '\\'
  · subst backslash
    exact (steady_escape? flags rest).suffix read
  · obtain rfl : rest = u := by
      unfold member? at read
      split at read
      · next eq => cases eq
      · next eq => exact absurd (List.cons.inj eq).1 backslash
      · next eq =>
        cases eq
        exact (Prod.mk.inj (Option.some.inj read)).2
    exact List.suffix_rfl

/-- Any fuel beyond the length of `s` is enough. -/
theorem brackets?_fuel {fuel fuel' : Nat} (enough : s.length < fuel) (enough' : s.length < fuel')
    (b : Bracket) (outer : List Bracket) :
    brackets? flags fuel b outer s = brackets? flags fuel' b outer s := by
  induction fuel generalizing fuel' b outer s with
  | zero => exact absurd enough (Nat.not_lt_zero _)
  | succ fuel ih =>
    cases fuel' with
    | zero => exact absurd enough' (Nat.not_lt_zero _)
    | succ fuel' =>
      have skips (fuel : Nat) : brackets? flags (fuel + 1) b outer s =
          brackets? flags (fuel + 1) b outer (skip flags.spaced s) := by
        simp only [brackets?, skip_skip]
      rw [skips, skips fuel']
      have shorter := length_skip_le flags.spaced s
      have skipped := skip_skip flags.spaced s
      generalize skip flags.spaced s = u at shorter skipped
      -- every way to go on takes a character, for which fuel is left on both sides
      cases u with
      | nil => rw [brackets?, brackets?, skipped]
      | cons c rest =>
        rw [List.length_cons] at shorter
        have again {r : List Char} (suffix : r <:+ rest) (b : Bracket) (outer : List Bracket) :
            brackets? flags fuel b outer r = brackets? flags fuel' b outer r := by
          have length := suffix.length_le
          exact ih (by omega) (by omega) b outer
        rw [brackets?_cons _ _ _ _ _ _ skipped, brackets?_cons _ _ _ _ _ _ skipped]
        split
        · cases b.close? flags with
          | none => rfl
          | some closed =>
            cases outer with
            | nil => rfl
            | cons b outer => exact again List.suffix_rfl (b.add closed) outer
        · split
          · cases named : asciiClass? ('[' :: rest) with
            | some p =>
              have suffix := asciiClass?_suffix named
              change afterClass? flags fuel b outer p = afterClass? flags fuel' b outer p
              rw [afterClass?, afterClass?]
              exact congrArg _ (funext fun set => again suffix (b.add ⟨set, 0⟩) outer)
            | none =>
              cases opened : Bracket.open? flags rest with
              | none => rfl
              | some p => exact again ((steady_open? flags rest).suffix opened) p.1 (b :: outer)
          · cases SetOperation.ofSigns? c rest with
            | some op => exact again (List.tail_suffix rest) (b.operate flags op) outer
            | none =>
              cases read : memberRange? flags (c :: rest) with
              | none => rfl
              | some p => exact again (memberRange?_suffix read) (b.add ⟨p.1, 0⟩) outer

/-- The set after an opening bracket. -/
theorem steady_bracket? (flags : Flags) : Steady Never (bracket? flags) := by
  have fueled (b : Bracket) : Steady Never fun s => brackets? flags (s.length + 1) b [] s := by
    intro s
    have long : s.length < (s ++ closing).length + 1 := by
      rw [List.length_append]
      omega
    refine (steady_brackets? flags ((s ++ closing).length + 1) b [] s).congr ?_ rfl
    exact brackets?_fuel (Nat.lt_succ_self _) long b []
  intro s
  refine (steady_open? flags s).bind fueled ?_
  rintro b r rfl n q found
  rw [List.nil_append, brackets?_closing] at found
  cases found

end Parcel.Pattern
