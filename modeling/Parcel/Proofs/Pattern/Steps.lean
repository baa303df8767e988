import Parcel.Proofs.Pattern.Brackets

/-!
# Steps at the end of a pattern

One more part of a pattern is read the same with the end of the frame behind the pattern, unless the
part is a word boundary before a brace that nothing follows.

## Main results

* `Pattern.steady_group?`, `Pattern.steady_bounds?` — groups and repetitions
* `Pattern.steady_step?` — one more part
-/

namespace Parcel.Pattern

variable {α : Type} {spaced : Bool} {flags : Flags} {st : State} {s : List Char}

/-- A reader that takes the same whatever stands behind the text. -/
theorem Steady.of_append {f : List Char → Option (α × List Char)}
    (suffix : ∀ {s p}, f s = some p → p.2 <:+ s)
    (append : ∀ s, f (s ++ closing) = (f s).map fun p => (p.1, p.2 ++ closing)) :
    Steady Never f := by
  intro s
  refine ⟨fun found => suffix found, fun {a r} found => ?_, fun {a r} found => ?_⟩
  · rw [append, found]
    exact .inl rfl
  · rw [append] at found
    obtain ⟨p, here, eq⟩ := Option.map_eq_some_iff.1 found
    rw [Prod.mk.injEq] at eq
    obtain ⟨rfl, same⟩ := eq
    rw [here]
    exact .inl (congrArg (fun r => some (p.1, r)) (List.append_cancel_right same))

/-- The head of a text is the same with the end of the frame behind it, where that makes a
difference. -/
theorem head?_append_closing {c : Char} (other : c ≠ ')') (s : List Char) :
    (s ++ closing).head? = some c ↔ s.head? = some c := by
  cases s with
  | nil =>
    have differ : ')' ≠ c := other.symm
    simp [closing, differ]
  | cons d s => exact Iff.rfl

/-- A reader that looks at the head first. -/
theorem SteadyAt.of_head {X : α → List Char → Prop}
    {f g h : List Char → Option (α × List Char)} {c : Char} (other : c ≠ ')')
    (here : f s = if s.head? = some c then g s.tail else h s)
    (framed : f (s ++ closing) =
      if (s ++ closing).head? = some c then g (s ++ closing).tail else h (s ++ closing))
    (behind : Steady X g) (plain : SteadyAt X h s) : SteadyAt X f s := by
  by_cases head : s.head? = some c
  · rw [if_pos head] at here
    rw [if_pos ((head?_append_closing other s).2 head)] at framed
    obtain ⟨rest, rfl⟩ := List.head?_eq_some_iff.1 head
    exact (behind rest).cons here framed
  · rw [if_neg head] at here
    rw [if_neg (mt (head?_append_closing other s).1 head)] at framed
    exact plain.congr here framed

/-! ## Groups -/

/-- The name of a group, if some characters are one. -/
def nameOf? : List Char → Option (List Char)
  | [] => none
  | c :: cs => if isNameChar true c && cs.all (isNameChar false) then some (c :: cs) else none

theorem steady_groupName? : Steady Never groupName? := by
  intro s
  have split : Steady Never (splitAt? ['>']) :=
    .of_append (fun {s p} found => splitAt?_suffix found) (splitAt?_append (by simp [closing]))
  have eq (s : List Char) : groupName? s =
      (splitAt? ['>'] s).bind fun p => (nameOf? p.1).map (·, p.2) := by
    refine congrArg _ (funext fun p => ?_)
    obtain ⟨name, rest⟩ := p
    cases name with
    | nil => rfl
    | cons c cs =>
      simp only [nameOf?]
      split <;> rfl
  exact ((split s).choose nameOf?).congr (eq s) (eq _)

/-- Changes to the settings with the sign behind them. -/
def signed? (flags : Flags) (on : Bool) (seen s : List Char) :
    Option ((Flags × List Char × Option Char) × List Char) :=
  (changes? flags on seen s).map fun p => ((p.1, p.2.1, p.2.2.head?), p.2.2.tail)

theorem signed?_cons (flags : Flags) (on : Bool) (seen : List Char) (c : Char)
    (rest : List Char) : signed? flags on seen (c :: rest) =
      if c = ':' ∨ c = ')' then
        if seen.head? = some '-' then none else some ((flags, seen, some c), rest)
      else if seen.contains c then none
      else if c = '-' then signed? flags false (c :: seen) rest
      else (flags.set? c on).bind fun flags => signed? flags on (c :: seen) rest := by
  rw [signed?, changes?]
  split
  · split <;> rfl
  · split
    · rfl
    · split
      · rfl
      · cases flags.set? c on <;> rfl

theorem steady_signed? (flags : Flags) (on : Bool) (seen : List Char) :
    Steady Never (signed? flags on seen) := by
  intro s
  induction s generalizing flags on seen with
  | nil =>
    -- the settings have to be closed, and the closing parenthesis of the frame would do
    by_cases dash : seen.head? = some '-'
    · refine .of_none rfl fun a r found => ?_
      rw [List.nil_append, closing, signed?_cons, if_pos (.inr rfl), if_pos dash] at found
      cases found
    · refine SteadyAt.of_touched (a := (flags, seen, some ')')) rfl ?_
      rw [closing, signed?_cons, if_pos (.inr rfl), if_neg dash]
  | cons c rest ih =>
    refine .cons_of_eq (signed?_cons flags on seen c) ?_
    split
    · split
      · exact steady_none rest
      · exact steady_pure (flags, seen, some c) rest
    · split
      · exact steady_none rest
      · split
        · exact ih flags false (c :: seen)
        · cases flags.set? c on with
          | none => exact steady_none rest
          | some flags => exact ih flags on (c :: seen)

/-- The state after a group with a name has opened. -/
def State.openNamed? (name : List Char) (st : State) : Option State :=
  if st.names.contains name then none
  else some { st.openNumbered with names := name :: st.names }

/-- The state after an opening parenthesis and a name. -/
def named? (st : State) (s : List Char) : Option (State × List Char) :=
  (groupName? s).bind fun p => (st.openNamed? p.1).map (·, p.2)

/-- The state after changes to the settings, which hold for a group when a colon follows them. -/
def State.change? (p : Flags × List Char × Option Char) (st : State) : Option State :=
  if p.2.2 = some ')' then
    if p.2.1.isEmpty then none else some { st.add ⟨.nothing, 0, false⟩ with flags := p.1 }
  else some (st.openGroup none p.1)

/-- The state after an opening parenthesis and changes to the settings. -/
def flagged? (st : State) (s : List Char) : Option (State × List Char) :=
  (signed? st.flags true [] s).bind fun p => (st.change? p.1).map (·, p.2)

/-- The state after an opening parenthesis and a question mark. -/
def marked? (st : State) (s : List Char) : Option (State × List Char) :=
  if [['='], ['!'], ['<', '='], ['<', '!']].any (·.isPrefixOf s) then none
  else if ['P', '<'].isPrefixOf s then named? st (s.drop 2)
  else if ['<'].isPrefixOf s then named? st (s.drop 1)
  else flagged? st s

theorem flagged?_eq (st : State) (s : List Char) : (do
    let (flags, seen, rest) ← changes? st.flags true [] s
    match rest with
    | ')' :: rest =>
      if seen.isEmpty then none
      else return ({ st.add ⟨.nothing, 0, false⟩ with flags }, rest)
    | _ => return (st.openGroup none flags, rest.drop 1)) = flagged? st s := by
  rw [flagged?, signed?]
  cases changes? st.flags true [] s with
  | none => rfl
  | some p =>
    obtain ⟨flags, seen, rest⟩ := p
    simp only [bind, Option.map_some, Option.bind_some, State.change?]
    cases rest with
    | nil => rfl
    | cons c rest =>
      by_cases paren : c = ')'
      · subst paren
        rw [List.head?_cons, if_pos rfl]
        cases seen <;> rfl
      · rw [List.head?_cons, if_neg (by simpa using paren)]
        split
        · next eq => exact absurd (List.cons.inj eq).1 paren
        · rfl

theorem isPrefixOf_eq_false {p s : List Char} (other : ∀ t, s = p ++ t → False) :
    p.isPrefixOf s = false := by
  rw [Bool.eq_false_iff]
  intro found
  obtain ⟨t, eq⟩ := List.isPrefixOf_iff_prefix.1 found
  exact other t eq.symm

theorem group?_eq (st : State) (s : List Char) : group? st s =
    if (skip st.flags.spaced s).head? = some '?' then
      marked? st (skip st.flags.spaced s).tail
    else some (st.openNumbered, skip st.flags.spaced s) := by
  have names (s : List Char) : ((groupName? s).bind fun p =>
      if st.names.contains p.1 then none
      else some ({ st.openNumbered with names := p.1 :: st.names }, p.2)) = named? st s := by
    refine congrArg _ (funext fun p => ?_)
    simp only [State.openNamed?]
    split <;> rfl
  rw [group?]
  generalize skip st.flags.spaced s = u
  simp only
  split
  -- looking ahead and behind are not supported
  · rfl
  · rfl
  · rfl
  · rfl
  · exact names _
  · next rest equal differ =>
    have plain :
        [['='], ['!'], ['<', '='], ['<', '!']].any (·.isPrefixOf ('<' :: rest)) = false := by
      simp only [List.any_cons, List.any_nil, Bool.or_eq_false_iff]
      exact ⟨rfl, rfl, isPrefixOf_eq_false fun t eq => equal t (List.cons.inj eq).2,
        isPrefixOf_eq_false fun t eq => differ t (List.cons.inj eq).2, trivial⟩
    rw [List.head?_cons, if_pos rfl, List.tail_cons, marked?, plain]
    exact names _
  · next rest equal differ behind notBehind numbered named =>
    have plain : [['='], ['!'], ['<', '='], ['<', '!']].any (·.isPrefixOf rest) = false := by
      simp only [List.any_cons, List.any_nil, Bool.or_eq_false_iff]
      exact ⟨isPrefixOf_eq_false equal, isPrefixOf_eq_false differ, isPrefixOf_eq_false behind,
        isPrefixOf_eq_false notBehind, trivial⟩
    rw [List.head?_cons, if_pos rfl, List.tail_cons, marked?, plain, isPrefixOf_eq_false numbered,
      isPrefixOf_eq_false named]
    exact flagged?_eq st rest
  · next other =>
    rw [if_neg]
    · rfl
    · intro mark
      obtain ⟨rest, rfl⟩ := List.head?_eq_some_iff.1 mark
      exact other rest rfl

theorem steady_named? (st : State) : Steady Never (named? st) := fun s =>
  (steady_groupName? s).choose fun name => st.openNamed? name

theorem steady_flagged? (st : State) : Steady Never (flagged? st) := fun s =>
  (steady_signed? st.flags true [] s).choose fun p => st.change? p

/-- A reader that goes on behind some characters which the end of the frame does not have. -/
theorem SteadyAt.behind {X : α → List Char → Prop} {f g : List Char → Option (α × List Char)}
    {p : List Char} (found : p.isPrefixOf s) (steady : SteadyAt X g (s.drop p.length))
    (here : f s = g (s.drop p.length))
    (framed : f (s ++ closing) = g ((s ++ closing).drop p.length)) : SteadyAt X f s := by
  have fits := (List.isPrefixOf_iff_prefix.1 found).length_le
  rw [List.drop_append_of_le_length fits] at framed
  exact steady.of_suffix (List.drop_suffix _ s) here framed

theorem steady_marked? (st : State) : Steady Never (marked? st) := by
  intro s
  have same {p : List Char} (foreign : ∀ c ∈ p, c ∉ closing) := isPrefixOf_append_closing foreign s
  have look : [['='], ['!'], ['<', '='], ['<', '!']].any (·.isPrefixOf (s ++ closing)) =
      [['='], ['!'], ['<', '='], ['<', '!']].any (·.isPrefixOf s) := by
    simp only [List.any_cons, List.any_nil]
    rw [same (by simp [closing]), same (by simp [closing]), same (by simp [closing]),
      same (by simp [closing])]
  -- both sides are split on the same marks, since `closing` has none of their characters
  have framed : marked? st (s ++ closing) = _ := marked?.eq_1 st (s ++ closing)
  rw [look, same (by simp [closing]), same (by simp [closing])] at framed
  have here : marked? st s = _ := marked?.eq_1 st s
  split at here
  · next found =>
    rw [if_pos found] at framed
    exact (steady_none s).congr here framed
  · next other =>
    rw [if_neg other] at framed
    split at here
    · next found =>
      rw [if_pos found] at framed
      exact .behind found (steady_named? st _) here framed
    · next other =>
      rw [if_neg other] at framed
      split at here
      · next found =>
        rw [if_pos found] at framed
        exact .behind found (steady_named? st _) here framed
      · next other =>
        rw [if_neg other] at framed
        exact (steady_flagged? st s).congr here framed

/-- An opening parenthesis and what belongs to it. -/
theorem steady_group? (st : State) : Steady Never (group? st) := by
  refine Steady.of_skip st.flags.spaced (fun s => by rw [group?_eq, group?_eq, skip_skip])
    fun s skipped => ?_
  have here := group?_eq st s
  have framed := group?_eq st (s ++ closing)
  rw [skipped] at here
  rw [skip_append_of_skipped skipped] at framed
  exact .of_head (g := marked? st) (h := fun s => some (st.openNumbered, s)) (by decide) here framed
    (steady_marked? st) (steady_pure st.openNumbered s)

/-! ## Repetitions -/

/-- The count that some digits denote, if there are any. -/
def countOf? (digits : List Char) : Option (Option Nat) :=
  if digits.isEmpty then some none
  else if Decimal.value digits ≤ greatestCount then some (some (Decimal.value digits)) else none

theorem steady_count? (spaced : Bool) : Steady Never (count? spaced) := by
  have digits : Steady Never fun s : List Char =>
      some (run spaced Decimal.isDigit (s.dropWhile Unicode.isBlank)) :=
    (steady_run spaced (p := Decimal.isDigit) (by decide)).dropWhile
  have rest (digits : List Char) : Steady Never fun s : List Char =>
      (countOf? digits).map (·, skip spaced (s.dropWhile Unicode.isBlank)) :=
    Steady.dropWhile fun s => (steady_option (countOf? digits) (skip spaced s)).skipping
  have eq (s : List Char) : count? spaced s =
      (some (run spaced Decimal.isDigit (s.dropWhile Unicode.isBlank))).bind fun p =>
        (countOf? p.1).map (·, skip spaced (p.2.dropWhile Unicode.isBlank)) := by
    simp only [count?, countOf?, Option.bind_some]
    split
    · rfl
    · split <;> rfl
  intro s
  exact ((digits s).andThen rest).congr (eq s) (eq _)

/-- The bounds of a repetition whose least count is given, from the greatest one on. -/
def greatest? (spaced : Bool) (least : Nat) (s : List Char) :
    Option ((Nat × Option Nat) × List Char) :=
  ((count? spaced s).bind fun p =>
    p.1.bind fun most => ((eat? '\x7d' p.2).map (((), ·))).bind fun q => some (most, q.2)).bind
      fun p => (if p.1 < least then none else some (least, some p.1)).map (·, p.2)

/-- The bounds of a repetition whose least count is given, from behind the comma on. -/
def afterComma? (spaced : Bool) (least : Nat) (s : List Char) :
    Option ((Nat × Option Nat) × List Char) :=
  if (skip spaced s).head? = some '\x7d' then some ((least, none), (skip spaced s).tail)
  else greatest? spaced least (skip spaced s)

/-- The bounds of a repetition whose least count is given. -/
def afterLeast? (spaced : Bool) (least : Nat) (s : List Char) :
    Option ((Nat × Option Nat) × List Char) :=
  if s.head? = some '\x7d' then some ((least, some least), s.tail)
  else if s.head? = some ',' then afterComma? spaced least s.tail
  else none

theorem greatest?_eq (spaced : Bool) (least : Nat) (s : List Char) :
    Option.map (fun p => ((p.1, p.2.1), p.2.2)) (do
      let (most, rest) ← count? spaced s
      let most ← most
      let rest ← eat? '\x7d' rest
      if most < least then none else return (least, some most, rest)) =
      greatest? spaced least s := by
  rw [greatest?]
  cases count? spaced s with
  | none => rfl
  | some p =>
    obtain ⟨most, u⟩ := p
    cases most with
    | none => rfl
    | some most =>
      simp only [bind, Option.bind_some]
      cases eat? '\x7d' u with
      | none => rfl
      | some u =>
        simp only [Option.bind_some, Option.map_some]
        split <;> rfl

theorem bounds?_eq (spaced : Bool) (s : List Char) :
    (bounds? spaced s).map (fun p => ((p.1, p.2.1), p.2.2)) =
      (count? spaced (skip spaced s)).bind fun p =>
        p.1.bind fun least => afterLeast? spaced least p.2 := by
  rw [bounds?]
  cases count? spaced (skip spaced s) with
  | none => rfl
  | some p =>
    obtain ⟨least, u⟩ := p
    cases least with
    | none => rfl
    | some least =>
      simp only [bind, Option.bind_some]
      split
      · rfl
      · next rest =>
        change _ = afterComma? spaced least rest
        rw [afterComma?]
        split
        · next eq =>
          rw [eq]
          rfl
        · next other =>
          rw [if_neg]
          · exact greatest?_eq spaced least _
          · intro brace
            obtain ⟨rest', eq⟩ := List.head?_eq_some_iff.1 brace
            exact other rest' eq
      · next closed comma =>
        rw [afterLeast?, if_neg, if_neg]
        · rfl
        · intro sign
          obtain ⟨rest, rfl⟩ := List.head?_eq_some_iff.1 sign
          exact comma rest rfl
        · intro brace
          obtain ⟨rest, rfl⟩ := List.head?_eq_some_iff.1 brace
          exact closed rest rfl

theorem steady_eat? {c : Char} (other : c ≠ ')') :
    Steady Never fun s => (eat? c s).map (((), ·)) := by
  intro s
  cases s with
  | nil =>
    refine .of_none rfl fun a r found => ?_
    rw [List.nil_append, closing, eat?, if_neg other.symm] at found
    cases found
  | cons d rest =>
    refine .cons_of_eq (fun u => by rw [eat?]) ?_
    split
    · exact steady_pure () rest
    · exact steady_none rest

theorem steady_greatest? (spaced : Bool) (least : Nat) :
    Steady Never (greatest? spaced least) := by
  have braced (most : Option Nat) : Steady Never fun s : List Char =>
      most.bind fun most => ((eat? '\x7d' s).map (((), ·))).bind fun q => some (most, q.2) := by
    intro s
    cases most with
    | none => exact steady_none s
    | some most =>
      exact (steady_eat? (by decide) s).andThen fun _ => steady_pure most
  intro s
  exact ((steady_count? spaced s).andThen braced).choose fun most =>
    if most < least then none else some (least, some most)

theorem steady_afterComma? (spaced : Bool) (least : Nat) :
    Steady Never (afterComma? spaced least) := by
  refine Steady.of_skip spaced (fun s => by rw [afterComma?, afterComma?, skip_skip])
    fun s skipped => ?_
  have here := afterComma?.eq_1 spaced least s
  have framed := afterComma?.eq_1 spaced least (s ++ closing)
  rw [skipped] at here
  rw [skip_append_of_skipped skipped] at framed
  exact .of_head (g := fun s => some ((least, none), s)) (h := greatest? spaced least) (by decide)
    here framed (steady_pure (least, none)) (steady_greatest? spaced least s)

theorem steady_afterLeast? (spaced : Bool) (least : Nat) :
    Steady Never (afterLeast? spaced least) := by
  intro s
  have comma : SteadyAt Never (fun s : List Char =>
      if s.head? = some ',' then afterComma? spaced least s.tail else none) s :=
    .of_head (g := afterComma? spaced least) (h := fun _ => none) (by decide) rfl rfl
      (steady_afterComma? spaced least) (steady_none s)
  exact .of_head (g := fun s => some ((least, some least), s)) (by decide) rfl rfl
    (steady_pure (least, some least)) comma

/-- The bounds of a repetition. -/
theorem steady_bounds? (spaced : Bool) :
    Steady Never fun s => (bounds? spaced s).map fun p => ((p.1, p.2.1), p.2.2) := by
  have rest (least : Option Nat) : Steady Never fun s : List Char =>
      least.bind fun least => afterLeast? spaced least s := by
    cases least with
    | none => exact steady_none
    | some least => exact steady_afterLeast? spaced least
  intro s
  have counted := (steady_count? spaced (skip spaced s)).skipping
  exact (counted.andThen rest).congr (bounds?_eq spaced s) (bounds?_eq spaced _)

theorem steady_lazyMark : Steady Never fun s => some (lazyMark s) := by
  have eq (s : List Char) : some (lazyMark s) =
      if s.head? = some '?' then some (true, s.tail) else some (false, s) := by
    unfold lazyMark
    split
    · rfl
    · next other =>
      rw [if_neg]
      intro mark
      obtain ⟨rest, rfl⟩ := List.head?_eq_some_iff.1 mark
      exact other rest rfl
  intro s
  exact .of_head (g := fun s => some (true, s)) (h := fun s => some (false, s)) (by decide) (eq s)
    (eq _) (steady_pure true) (steady_pure false s)

/-! ## One more part -/

/-- The last piece repeated, with a mark behind the sign of the repetition. -/
def repeated? (st : State) (least : Nat) (most : Option Nat) (s : List Char) :
    Option (State × List Char) :=
  (some (lazyMark s)).bind fun p => (st.repeat? least most p.1).map (·, p.2)

theorem steady_repeated? (st : State) (least : Nat) (most : Option Nat) :
    Steady Never (repeated? st least most) := fun s =>
  (steady_lazyMark s).choose fun marked => st.repeat? least most marked

/-- What is not read the same: a word boundary, with a brace left that nothing follows. -/
def Undone (st : State) (r : List Char) : Prop := Dangles st.flags.spaced r

/-- The state after an atom. -/
def State.addAtom? (atom : Atom) (st : State) : Option State :=
  (atom.expression? st.flags).map fun e => st.add (.simple e)

theorem step?_atom (st : State) (atom : Atom) (s : List Char) : (do
    return (st.add (.simple (← atom.expression? st.flags)), s)) =
      (st.addAtom? atom).map (·, s) := by
  rw [State.addAtom?]
  cases atom.expression? st.flags <;> rfl

theorem steady_step? (st : State) (c : Char) : Steady Undone (step? st c) := by
  have escapes : Steady Undone fun s =>
      (escape? st.flags s).bind fun p => (st.addAtom? p.1).map (·, p.2) := fun s => by
    refine (steady_escape? st.flags s).filterMap (fun atom => st.addAtom? atom) ?_
    rintro atom r st' ⟨-, dangles⟩ added
    obtain ⟨e, -, rfl⟩ := Option.map_eq_some_iff.1 added
    exact dangles
  have braced : Steady Never fun s =>
      ((bounds? st.flags.spaced s).map fun p => ((p.1, p.2.1), p.2.2)).bind fun p =>
        repeated? st p.1.1 p.1.2 (skip st.flags.spaced p.2) := fun s =>
    (steady_bounds? st.flags.spaced s).andThen
      fun p s => (steady_repeated? st p.1 p.2 (skip st.flags.spaced s)).skipping
  intro s
  change SteadyAt Undone (fun s => step? st c s) s
  -- one goal for each character that `step?` tells apart, in its order
  simp only [step?, step?_atom]
  split
  · exact (steady_group? st s).always
  · exact steady_option st.closeGroup? s
  · exact steady_pure st.endAlternative s
  · exact (steady_repeated? st 0 (some 1) s).always
  · exact (steady_repeated? st 0 none s).always
  · exact (steady_repeated? st 1 none s).always
  · have eq (u : List Char) : ((bounds? st.flags.spaced u).bind fun p =>
        repeated? st p.1 p.2.1 (skip st.flags.spaced p.2.2)) =
        ((bounds? st.flags.spaced u).map fun p => ((p.1, p.2.1), p.2.2)).bind fun p =>
          repeated? st p.1.1 p.1.2 (skip st.flags.spaced p.2) := by
      cases bounds? st.flags.spaced u <;> rfl
    exact ((braced s).congr (eq s) (eq _)).always
  · have bracketed := (steady_bracket? st.flags s).map fun set =>
      st.add ⟨.ofSet set.set, set.depth, true⟩
    refine (bracketed.congr ?_ ?_).always
    · cases bracket? st.flags s <;> rfl
    · cases bracket? st.flags (s ++ closing) <;> rfl
  · exact steady_pure _ s
  · exact steady_pure _ s
  · exact escapes s
  · exact steady_option (st.addAtom? .dot) s
  · exact steady_option (st.addAtom? _) s

end Parcel.Pattern
