import Parcel.Pattern.Reader

/-!
# Readers at the end of a pattern

A pattern is read with a closing parenthesis and a dollar sign behind it. What a reader makes of the
pattern does not depend on them as long as it leaves them alone. There are exceptions on either
side: a comment at the end of the pattern takes them in, and a few readers accept with them what
they refuse at the end of a text.

## Main definitions

* `Pattern.closing` — what the frame puts behind a pattern
* `Pattern.SteadyAt`, `Pattern.Steady` — a reader that is the same with it

## Main results

* `Pattern.SteadyAt.bind` — readers one after the other
* `Pattern.SteadyAt.skipping` — readers behind white space and comments
* `Pattern.steady_escape?` — what a backslash stands for
-/

namespace Parcel.Pattern

/-- What the frame puts behind a pattern. -/
def closing : List Char := [')', '$']

variable {α β : Type} {spaced : Bool}

/-! ## Steadiness -/

/-- A reader `f` of a text takes the same and leaves the same rest when the frame is closed behind
the text, unless it is in a comment at the end. What it takes without touching the end of the frame
it also takes when the frame is not there, with the exceptions of `except`. -/
structure SteadyAt (except : α → List Char → Prop) (f : List Char → Option (α × List Char))
    (s : List Char) : Prop where
  suffix : ∀ {a r}, f s = some (a, r) → r <:+ s
  framed : ∀ {a r}, f s = some (a, r) →
    f (s ++ closing) = some (a, r ++ closing) ∨ r = [] ∧ f (s ++ closing) = some (a, [])
  alone : ∀ {a r}, f (s ++ closing) = some (a, r ++ closing) → f s = some (a, r) ∨ except a r

/-- A reader that is steady at every text. -/
def Steady (except : α → List Char → Prop) (f : List Char → Option (α × List Char)) : Prop :=
  ∀ s, SteadyAt except f s

/-- Without exceptions. -/
abbrev Never : α → List Char → Prop := fun _ _ => False

variable {X : α → List Char → Prop} {Y : β → List Char → Prop}
  {f g : List Char → Option (α × List Char)} {s : List Char}

/-- A reader without exceptions may have any. -/
theorem SteadyAt.always (steady : SteadyAt Never f s) : SteadyAt X f s :=
  ⟨steady.suffix, steady.framed, fun found => (steady.alone found).imp id False.elim⟩

/-- A reader that goes on at a later place. -/
theorem SteadyAt.of_suffix {u : List Char} (steady : SteadyAt X g u) (later : u <:+ s)
    (here : f s = g u) (framed : f (s ++ closing) = g (u ++ closing)) : SteadyAt X f s := by
  refine ⟨fun {a r} found => ?_, fun {a r} found => ?_, fun {a r} found => ?_⟩
  · exact (steady.suffix (here ▸ found)).trans later
  · rw [framed]
    exact steady.framed (here ▸ found)
  · rw [here]
    exact steady.alone (framed ▸ found)

theorem SteadyAt.congr (steady : SteadyAt X g s) (here : f s = g s)
    (framed : f (s ++ closing) = g (s ++ closing)) : SteadyAt X f s :=
  steady.of_suffix List.suffix_rfl here framed

/-- A reader that goes on behind a character. -/
theorem SteadyAt.cons {c : Char} (steady : SteadyAt X g s) (here : f (c :: s) = g s)
    (framed : f (c :: (s ++ closing)) = g (s ++ closing)) : SteadyAt X f (c :: s) :=
  steady.of_suffix (List.suffix_cons c s) here framed

theorem SteadyAt.cons_of_eq {c : Char} (eq : ∀ u, f (c :: u) = g u) (steady : SteadyAt X g s) :
    SteadyAt X f (c :: s) :=
  steady.cons (eq s) (eq (s ++ closing))

/-- A reader that refuses a text, and only where `X` allows it touches the end of the frame when
that stands behind the text. -/
theorem SteadyAt.of_none (here : f s = none)
    (touched : ∀ a r, f (s ++ closing) = some (a, r ++ closing) → X a r) : SteadyAt X f s := by
  refine ⟨fun found => ?_, fun found => ?_, fun found => .inr (touched _ _ found)⟩
  · rw [here] at found
    cases found
  · rw [here] at found
    cases found

/-- A reader that refuses the end of a text, and takes the closing parenthesis when there is one. -/
theorem SteadyAt.of_touched {a : α} (here : f [] = none) (framed : f closing = some (a, ['$'])) :
    SteadyAt X f [] := by
  refine .of_none here fun b r found => ?_
  rw [List.nil_append, framed, Option.some.injEq, Prod.mk.injEq] at found
  have long := congrArg List.length found.2
  simp [closing] at long

/-- Refusing everything. -/
theorem steady_none : Steady X fun _ => none :=
  fun _ => .of_none rfl fun _ _ found => by cases found

/-- Reading nothing. -/
theorem steady_pure (a : α) : Steady X fun s => some (a, s) := fun s => by
  refine ⟨fun {b r} found => ?_, fun {b r} found => ?_, fun {b r} found => ?_⟩
  · cases found
    exact List.suffix_rfl
  · cases found
    exact .inl rfl
  · rw [Option.some.injEq, Prod.mk.injEq] at found
    obtain ⟨rfl, same⟩ := found
    exact .inl (congrArg (fun r => some (a, r)) (List.append_cancel_right same))

theorem steady_option (o : Option α) : Steady X fun s => o.map (·, s) := by
  cases o with
  | none => exact steady_none
  | some a => exact steady_pure a

/-- What leaves the end of the frame leaves a rest of the text. -/
theorem exists_of_suffix {q r : List Char} (suffix : q ++ closing <:+ r) :
    ∃ u, r = u ++ closing := by
  obtain ⟨before, rfl⟩ := suffix
  exact ⟨before ++ q, (List.append_assoc before q closing).symm⟩

/-- One reader after another. -/
theorem SteadyAt.bind {g : α → List Char → Option (β × List Char)} (first : SteadyAt X f s)
    (second : ∀ a, Steady Y (g a))
    (except : ∀ a r, X a r → ∀ b q, g a (r ++ closing) = some (b, q ++ closing) → Y b q) :
    SteadyAt Y (fun s => (f s).bind fun p => g p.1 p.2) s := by
  refine ⟨fun {b q} found => ?_, fun {b q} found => ?_, fun {b q} found => ?_⟩
  · obtain ⟨⟨a, r⟩, read, found⟩ := Option.bind_eq_some_iff.1 found
    exact ((second a r).suffix found).trans (first.suffix read)
  · obtain ⟨⟨a, r⟩, read, found⟩ := Option.bind_eq_some_iff.1 found
    rcases first.framed read with taken | ⟨rfl, taken⟩
    · rw [taken]
      exact (second a r).framed found
    · -- the first reader ends in a comment, and nothing is left for the second one
      rw [taken]
      obtain rfl := List.suffix_nil.1 ((second a []).suffix found)
      exact .inr ⟨rfl, found⟩
  · obtain ⟨⟨a, r⟩, read, found⟩ := Option.bind_eq_some_iff.1 found
    -- the second reader has left the end of the frame alone, so the first one has as well
    obtain ⟨u, rfl⟩ := exists_of_suffix ((second a r).suffix found)
    rcases first.alone read with read | exception
    · rw [read]
      exact (second a u).alone found
    · exact .inr (except a u exception b q found)

theorem SteadyAt.andThen {g : α → List Char → Option (β × List Char)}
    (first : SteadyAt Never f s) (second : ∀ a, Steady Y (g a)) :
    SteadyAt Y (fun s => (f s).bind fun p => g p.1 p.2) s :=
  first.bind second fun _ _ never => never.elim

/-- A reader whose result is looked at. -/
theorem SteadyAt.filterMap (h : α → Option β) (steady : SteadyAt X f s)
    (except : ∀ a r b, X a r → h a = some b → Y b r) :
    SteadyAt Y (fun s => (f s).bind fun p => (h p.1).map (·, p.2)) s := by
  refine steady.bind (g := fun a r => (h a).map (·, r)) (fun a => steady_option (h a)) ?_
  intro a r exception b q found
  obtain ⟨b', eq, found⟩ := Option.map_eq_some_iff.1 found
  rw [Prod.mk.injEq] at found
  obtain ⟨rfl, same⟩ := found
  exact List.append_cancel_right same ▸ except a r b' exception eq

theorem SteadyAt.choose (h : α → Option β) (steady : SteadyAt Never f s) :
    SteadyAt Never (fun s => (f s).bind fun p => (h p.1).map (·, p.2)) s :=
  steady.filterMap h fun _ _ _ never _ => never

theorem SteadyAt.map (h : α → β) (steady : SteadyAt Never f s) :
    SteadyAt Never (fun s => (f s).map fun p => (h p.1, p.2)) s := by
  refine (steady.choose fun a => some (h a)).congr ?_ ?_
  · cases f s <;> rfl
  · cases f (s ++ closing) <;> rfl

/-! ## Skipping -/

theorem skipBlanks_suffix (comment : Bool) (s : List Char) : skipBlanks comment s <:+ s := by
  fun_induction skipBlanks comment s with
  | case1 => exact List.suffix_rfl
  | case2 c rest ih => exact ih.trans (List.suffix_cons c rest)
  | case3 c rest _ ih => exact ih.trans (List.suffix_cons c rest)
  | case4 rest _ ih => exact ih.trans (List.suffix_cons _ rest)
  | case5 => exact List.suffix_rfl

theorem skip_suffix (spaced : Bool) (s : List Char) : skip spaced s <:+ s := by
  unfold skip
  split
  · exact skipBlanks_suffix false s
  · exact List.suffix_rfl

theorem skip_closing (spaced : Bool) : skip spaced closing = closing := by
  cases spaced <;> decide

theorem skip_dollar (spaced : Bool) : skip spaced ['$'] = ['$'] := by
  cases spaced <;> decide

theorem skipBlanks_append (comment : Bool) (s : List Char) :
    skipBlanks comment (s ++ closing) = skipBlanks comment s ++ closing ∨
      skipBlanks comment s = [] ∧ skipBlanks comment (s ++ closing) = [] := by
  fun_induction skipBlanks comment s with
  | case1 comment => cases comment <;> decide
  | case2 c rest ih => exact ih
  | case3 c rest blank ih =>
    rw [List.cons_append, skipBlanks, if_pos blank]
    exact ih
  | case4 rest blank ih =>
    rw [List.cons_append, skipBlanks, if_neg blank, if_pos rfl]
    exact ih
  | case5 c rest blank sign =>
    rw [List.cons_append, skipBlanks, if_neg blank, if_neg sign]
    exact .inl rfl

/-- White space and comments are skipped in the text `s`, or the text ends in a comment. -/
theorem skip_append (spaced : Bool) (s : List Char) :
    skip spaced (s ++ closing) = skip spaced s ++ closing ∨
      skip spaced s = [] ∧ skip spaced (s ++ closing) = [] := by
  cases spaced with
  | false => exact .inl rfl
  | true => exact skipBlanks_append false s

theorem skip_append_of_cons {c : Char} {rest : List Char} (skipped : skip spaced s = c :: rest) :
    skip spaced (s ++ closing) = c :: (rest ++ closing) := by
  rcases skip_append spaced s with framed | ⟨empty, -⟩
  · rw [framed, skipped]
    rfl
  · rw [skipped] at empty
    cases empty

/-- A reader `f` that skips first. -/
theorem SteadyAt.skipping (steady : SteadyAt X f (skip spaced s)) :
    SteadyAt X (fun s => f (skip spaced s)) s := by
  refine ⟨fun {a r} found => ?_, fun {a r} found => ?_, fun {a r} found => ?_⟩
  · exact (steady.suffix found).trans (skip_suffix spaced s)
  · rcases skip_append spaced s with framed | ⟨empty, framed⟩
    · rw [framed]
      exact steady.framed found
    · obtain rfl := List.suffix_nil.1 (empty ▸ steady.suffix found)
      rw [framed]
      exact .inr ⟨rfl, empty ▸ found⟩
  · rcases skip_append spaced s with framed | ⟨empty, framed⟩
    · rw [framed] at found
      exact steady.alone found
    · rw [framed, ← empty] at found
      have suffix := empty ▸ steady.suffix found
      have long := suffix.length_le
      simp [closing] at long

theorem skipBlanks_skipBlanks (comment : Bool) (s : List Char) :
    skipBlanks false (skipBlanks comment s) = skipBlanks comment s := by
  fun_induction skipBlanks comment s with
  | case1 => rfl
  | case2 c rest ih => exact ih
  | case3 c rest _ ih => exact ih
  | case4 rest _ ih => exact ih
  | case5 c rest blank sign => rw [skipBlanks, if_neg blank, if_neg sign]

/-- Nothing is left to skip. -/
theorem skip_skip (spaced : Bool) (s : List Char) :
    skip spaced (skip spaced s) = skip spaced s := by
  cases spaced with
  | false => rfl
  | true => exact skipBlanks_skipBlanks false s

theorem skip_append_of_skipped (skipped : skip spaced s = s) :
    skip spaced (s ++ closing) = s ++ closing := by
  cases s with
  | nil => exact skip_closing spaced
  | cons c rest => exact skip_append_of_cons skipped

/-- A reader that skips first may be looked at where there is nothing to skip. -/
theorem Steady.of_skip (spaced : Bool) (same : ∀ s, f s = f (skip spaced s))
    (steady : ∀ s, skip spaced s = s → SteadyAt X f s) : Steady X f := fun s =>
  (steady (skip spaced s) (skip_skip spaced s)).skipping.congr (same s) (same (s ++ closing))

/-- A reader that goes on behind a character that is not skipped. -/
theorem SteadyAt.cons_of_skipped {c : Char} (skipped : skip spaced (c :: s) = c :: s)
    (eq : ∀ u, skip spaced (c :: u) = c :: u → f (c :: u) = g u) (steady : SteadyAt X g s) :
    SteadyAt X f (c :: s) :=
  steady.cons (eq s skipped) (eq (s ++ closing) (skip_append_of_cons skipped))

/-! ## Runs of characters -/

theorem dropWhile_append_closing (s : List Char) :
    (s ++ closing).dropWhile Unicode.isBlank = s.dropWhile Unicode.isBlank ++ closing := by
  induction s with
  | nil => decide
  | cons c s ih =>
    rw [List.cons_append, List.dropWhile_cons, List.dropWhile_cons, ih]
    split <;> rfl

/-- A reader that drops white space first. -/
theorem Steady.dropWhile (steady : Steady X f) :
    Steady X fun s => f (s.dropWhile Unicode.isBlank) := fun s => by
  have at_ := steady (s.dropWhile Unicode.isBlank)
  refine ⟨fun {a r} found => ?_, fun {a r} found => ?_, fun {a r} found => ?_⟩
  · exact (at_.suffix found).trans (List.dropWhile_suffix _)
  · rw [dropWhile_append_closing]
    exact at_.framed found
  · rw [dropWhile_append_closing] at found
    exact at_.alone found

/-- Characters of a kind to which the closing parenthesis does not belong. -/
theorem steady_run (spaced : Bool) {p : Char → Bool} (stops : p ')' = false) :
    Steady Never fun s => some (run spaced p s) := fun s => by
  -- on the length, since white space may be skipped behind each character
  induction length : s.length using Nat.strongRecOn generalizing s with
  | ind n ih =>
    cases s with
    | nil =>
      refine SteadyAt.congr (steady_pure [] []) (by rw [run]) ?_
      rw [List.nil_append, closing, run, stops]
      rfl
    | cons c rest =>
      cases taken : p c with
      | false =>
        refine SteadyAt.congr (steady_pure [] (c :: rest)) (by rw [run, taken]; rfl) ?_
        rw [List.cons_append, run, taken]
        rfl
      | true =>
        have shorter : (skip spaced rest).length < n := by
          have := length_skip_le spaced rest
          rw [List.length_cons] at length
          omega
        have inside := (ih _ shorter _ rfl).skipping.map (c :: ·)
        exact inside.cons (by rw [run, taken]; rfl) (by rw [run, taken]; rfl)

theorem run_suffix (spaced : Bool) (p : Char → Bool) (s : List Char) :
    (run spaced p s).2 <:+ s := by
  fun_induction run spaced p s with
  | case1 => exact List.suffix_rfl
  | case2 c rest _ taken rest' eq ih =>
    rw [eq] at ih
    exact (ih.trans (skip_suffix spaced rest)).trans (List.suffix_cons c rest)
  | case3 => exact List.suffix_rfl

/-- Characters of a kind up to a closing brace. -/
def braced? (spaced : Bool) (p : Char → Bool) (s : List Char) : Option (List Char × List Char) :=
  (eat? '\x7d' (run spaced p s).2).map ((run spaced p s).1, ·)

/-- There is no brace in the end of the frame. -/
theorem braced?_closing (spaced : Bool) (p : Char → Bool) : braced? spaced p closing = none := by
  have suffix := run_suffix spaced p closing
  have none : eat? '\x7d' (run spaced p closing).2 = none := by
    generalize (run spaced p closing).2 = rest at suffix
    have suffixes : rest = closing ∨ rest = ['$'] ∨ rest = [] := by
      simpa [closing, List.suffix_cons_iff] using suffix
    rcases suffixes with rfl | rfl | rfl <;> decide
  rw [braced?, none]
  rfl

theorem steady_braced? (spaced : Bool) (p : Char → Bool) : Steady Never (braced? spaced p) :=
    fun s => by
  induction length : s.length using Nat.strongRecOn generalizing s with
  | ind n ih =>
    cases s with
    | nil =>
      refine .of_none (by rw [braced?, run]; rfl) fun a r found => ?_
      rw [List.nil_append, braced?_closing] at found
      cases found
    | cons c rest =>
      cases taken : p c with
      | false =>
        by_cases brace : c = '\x7d'
        · refine SteadyAt.cons (steady_pure [] rest) ?_ ?_ <;> rw [braced?, run, taken, brace] <;>
            rfl
        · refine SteadyAt.cons (steady_none rest) ?_ ?_ <;> rw [braced?, run, taken] <;>
            exact congrArg (Option.map _) (if_neg brace)
      | true =>
        have shorter : (skip spaced rest).length < n := by
          have := length_skip_le spaced rest
          rw [List.length_cons] at length
          omega
        have inside := (ih _ shorter _ rfl).skipping.map (c :: ·)
        refine inside.cons ?_ ?_ <;> rw [braced?, run, taken, braced?, Option.map_map] <;> rfl

/-! ## Code points and properties -/

theorem steady_hexDigits? (spaced : Bool) (n : Nat) : Steady Never (hexDigits? spaced n) := by
  induction n with
  | zero => exact steady_pure []
  | succ n ih =>
    intro s
    cases s with
    | nil => exact .of_none rfl fun _ _ found => by cases found
    | cons c rest =>
      cases digit : isHexDigit c with
      | false =>
        refine SteadyAt.cons (steady_none rest) ?_ ?_ <;> rw [hexDigits?, digit] <;> rfl
      | true =>
        have inside := (ih (skip spaced rest)).skipping.map (c :: ·)
        refine inside.cons ?_ ?_ <;> rw [hexDigits?, digit] <;> rfl

/-- The character of some digits. -/
theorem steady_codePoint? (spaced : Bool) (digits : Nat) (h : Char → Bool → α) :
    Steady Never fun s => (codePoint? spaced digits s).map fun p => (h p.1 p.2.1, p.2.2) := by
  refine Steady.of_skip spaced (fun s => by simp only [codePoint?, skip_skip]) fun s skipped => ?_
  have framed := skip_append_of_skipped skipped
  by_cases brace : ∃ rest, s = '\x7b' :: rest
  · obtain ⟨rest, rfl⟩ := brace
    have taken := (steady_braced? spaced isHexDigit (skip spaced rest)).skipping
    have read := taken.choose fun taken =>
      if taken.isEmpty then none else (charOf? (hexNumber taken)).map fun d => h d false
    have skips := read.andThen (g := fun a rest => some (a, skip spaced rest)) (Y := Never)
      fun a s => (steady_pure a (skip spaced s)).skipping
    -- the digits, the brace and what is skipped behind it, as three readers
    have eq {u : List Char} (skipped : skip spaced ('\x7b' :: u) = '\x7b' :: u) :
        (codePoint? spaced digits ('\x7b' :: u)).map (fun p => (h p.1 p.2.1, p.2.2)) =
          ((braced? spaced isHexDigit (skip spaced u)).bind fun p =>
            (if p.1.isEmpty then none else (charOf? (hexNumber p.1)).map fun d => h d false).map
              (·, p.2)).bind fun p => some (p.1, skip spaced p.2) := by
      simp only [codePoint?, skipped, braced?]
      obtain ⟨taken, rest⟩ := run spaced isHexDigit (skip spaced u)
      cases eat? '\x7d' rest <;> cases taken <;> try rfl
      next c cs => cases read : charOf? (hexNumber (c :: cs)) <;> simp [read]
    exact skips.cons (eq skipped) (eq framed)
  · have read := (steady_hexDigits? spaced digits s).choose fun taken =>
      (charOf? (hexNumber taken)).map fun d => h d true
    have eq {u : List Char} (skipped : skip spaced u = u)
        (plain : ∀ rest, u = '\x7b' :: rest → False) :
        (codePoint? spaced digits u).map (fun p => (h p.1 p.2.1, p.2.2)) =
          (hexDigits? spaced digits u).bind fun p =>
            ((charOf? (hexNumber p.1)).map fun d => h d true).map (·, p.2) := by
      simp only [codePoint?, skipped]
      cases hexDigits? spaced digits u with
      | none => rfl
      | some p => cases read : charOf? (hexNumber p.1) <;> simp [read]
    refine read.congr (eq skipped fun rest plain => brace ⟨rest, plain⟩) (eq framed ?_)
    intro rest plain
    cases s with
    | nil => cases plain
    | cons c s =>
      obtain ⟨rfl, rfl⟩ := List.cons.inj plain
      exact brace ⟨s, rfl⟩

theorem propertyName?_cons (c : Char) (rest : List Char)
    (skipped : skip spaced (c :: rest) = c :: rest) :
    propertyName? spaced (c :: rest) =
      if c = '\x7b' then braced? spaced (· != '\x7d') (skip spaced rest)
      else if c = '\\' then none else some ([c], skip spaced rest) := by
  split
  · next brace =>
    subst brace
    simp only [propertyName?, skipped]
    rfl
  · next other => simp only [propertyName?, skipped]

/-- The name of a property. A single character may be the closing parenthesis, which is touched
then. -/
theorem steady_propertyName? (spaced : Bool) : Steady Never (propertyName? spaced) := by
  refine Steady.of_skip spaced (fun s => by simp only [propertyName?, skip_skip])
    fun s skipped => ?_
  cases s with
  | nil =>
    refine SteadyAt.of_touched (a := [')']) (by simp only [propertyName?, skipped]) ?_
    rw [closing, propertyName?_cons _ _ (skip_closing spaced), skip_dollar]
    rfl
  | cons c rest =>
    refine .cons_of_skipped skipped (propertyName?_cons c) ?_
    split
    · exact (steady_braced? spaced _ _).skipping
    · split
      · exact steady_none rest
      · exact (steady_pure [c] _).skipping

theorem steady_property? (flags : Flags) (negated : Bool) :
    Steady Never (property? flags negated) := fun s => by
  cases unicode : flags.unicode with
  | false =>
    exact (steady_none s).congr (by simp [property?, unicode]) (by simp [property?, unicode])
  | true =>
    have read := (steady_propertyName? flags.spaced s).choose fun name =>
      (propertySet? name).map fun set => (flags.fold set).negateIf negated
    have eq (u : List Char) : property? flags negated u =
        (propertyName? flags.spaced u).bind fun p =>
          ((propertySet? p.1).map fun set => (flags.fold set).negateIf negated).map (·, p.2) := by
      simp only [property?, unicode]
      cases propertyName? flags.spaced u with
      | none => rfl
      | some p => cases read : propertySet? p.1 <;> simp [read]
    exact read.congr (eq s) (eq _)

/-! ## Escapes -/

/-- A brace that nothing follows. -/
def Dangles (spaced : Bool) (s : List Char) : Prop :=
  ∃ rest, s = '\x7b' :: rest ∧ skip spaced rest = []

/-- An assertion with a brace that nothing follows left behind it. -/
def AtBrace (flags : Flags) (a : Atom) (r : List Char) : Prop :=
  (∃ x, a = .assertion x) ∧ Dangles flags.spaced r

/-- Whether a character may stand in the name of a word boundary. -/
def isBoundaryChar (c : Char) : Bool := c.isAlpha || c == '-'

/-- The word boundary of a name. -/
def boundaryOf? (flags : Flags) (name : List Char) : Option Atom :=
  match String.ofList name with
  | "start" => some (.assertion (.wordStart flags.word))
  | "end" => some (.assertion (.wordEnd flags.word))
  | "start-half" => some (.assertion (.wordStartHalf flags.word))
  | "end-half" => some (.assertion (.wordEndHalf flags.word))
  | _ => none

theorem namedBoundary?_brace (flags : Flags) (rest : List Char) :
    namedBoundary? flags ('\x7b' :: rest) = match skip flags.spaced rest with
      | [] => none
      | c :: rest' =>
        if isBoundaryChar c then
          (braced? flags.spaced isBoundaryChar (c :: rest')).bind fun p =>
            (boundaryOf? flags p.1).map (·, p.2)
        else some (.assertion (.boundary flags.word), '\x7b' :: rest) := by
  have named : (fun c : Char => c.isAlpha || c == '-') = isBoundaryChar := rfl
  simp only [namedBoundary?, braced?, boundaryOf?, named]
  cases skip flags.spaced rest with
  | nil => rfl
  | cons c rest' =>
    simp only [← congrFun named c]
    cases c.isAlpha || c == '-' with
    | false => rfl
    | true =>
      obtain ⟨name, rest⟩ := run flags.spaced isBoundaryChar (c :: rest')
      cases eat? '\x7d' rest with
      | none => rfl
      | some rest =>
        simp only [Bool.not_true, Bool.false_eq_true, if_false, if_true, bind, Option.bind,
          Option.map_some]
        generalize String.ofList name = word
        split <;> simp [*]

/-- After the letter of a word boundary, a brace that nothing follows is refused; one that the
closing parenthesis follows is left to be read as a repetition. -/
theorem steady_namedBoundary? (flags : Flags) :
    Steady (AtBrace flags) (namedBoundary? flags) := by
  intro s
  have plain (s : List Char) (other : ∀ rest, s ≠ '\x7b' :: rest) :
      namedBoundary? flags s = some (.assertion (.boundary flags.word), s) := by
    unfold namedBoundary?
    split
    · next rest => exact absurd rfl (other rest)
    · rfl
  by_cases brace : ∃ rest, s = '\x7b' :: rest
  · obtain ⟨rest, rfl⟩ := brace
    cases skipped : skip flags.spaced rest with
    | nil =>
      -- refused at the end of a text, and the brace is left before the closing parenthesis
      refine .of_none (by rw [namedBoundary?_brace, skipped]) fun a r found => ?_
      rw [List.cons_append, namedBoundary?_brace] at found
      rcases skip_append flags.spaced rest with framed | ⟨-, framed⟩
      · rw [framed, skipped] at found
        simp only [List.nil_append, closing] at found
        rw [if_neg (by decide), Option.some.injEq, Prod.mk.injEq] at found
        refine ⟨⟨_, found.1.symm⟩, rest, ?_, skipped⟩
        exact ((List.append_left_inj closing).1 found.2).symm
      · rw [framed] at found
        cases found
    | cons c rest' =>
      have framed := skip_append_of_cons skipped
      cases letter : isBoundaryChar c with
      | false =>
        refine (steady_pure (.assertion (.boundary flags.word)) ('\x7b' :: rest)).congr ?_ ?_
        · simp only [namedBoundary?_brace, skipped, letter, Bool.false_eq_true, if_false]
        · rw [List.cons_append, namedBoundary?_brace, framed]
          simp only [letter, Bool.false_eq_true, if_false]
      | true =>
        have read := (steady_braced? flags.spaced isBoundaryChar (skip flags.spaced rest)).skipping
        refine (read.choose (boundaryOf? flags)).always.cons ?_ ?_
        · simp only [namedBoundary?_brace, skipped, letter, if_true]
        · simp only [namedBoundary?_brace, framed, letter, if_true]
  · refine (steady_pure (.assertion (.boundary flags.word)) s).congr ?_ ?_
    · exact plain s fun rest eq => brace ⟨rest, eq⟩
    · refine plain _ fun rest eq => ?_
      cases s with
      | nil => cases eq
      | cons c s => exact brace ⟨s, congrArg (· :: s) (List.cons.inj eq).1⟩

/-- What a backslash stands for. -/
theorem steady_escape? (flags : Flags) : Steady (AtBrace flags) (escape? flags) := by
  have code (digits : Nat) (rest : List Char) :=
    steady_codePoint? flags.spaced digits
      (fun d exact => Atom.literal d (exact && digits == 2)) rest
  have property (negated : Bool) (rest : List Char) :=
    (steady_property? flags negated rest).map Atom.set
  have letters (set : Option CharSet) : Steady (AtBrace flags) fun rest =>
      set.map fun s => (Atom.set s, rest) := by
    cases set with
    | none => exact steady_none
    | some set => exact steady_pure (Atom.set set)
  intro s
  cases s with
  | nil => exact .of_touched rfl rfl
  | cons c rest =>
    refine SteadyAt.cons (g := fun rest => escape? flags (c :: rest)) ?_ rfl rfl
    simp only [escape?]
    -- one goal for each character after the backslash, in the order of `escape?`
    split
    · exact (code 2 rest).always
    · exact (code 4 rest).always
    · exact (code 8 rest).always
    · exact (property _ rest).always
    · exact (property _ rest).always
    iterate 6 exact letters _ rest
    iterate 8 exact steady_pure _ rest
    · exact steady_namedBoundary? flags rest
    iterate 3 exact steady_pure _ rest
    · split
      · exact steady_pure _ rest
      · exact steady_none rest

end Parcel.Pattern
