import Parcel.Proofs.MessagePack.RoundTrip

/-!
# MessagePack with more bytes behind it

Every object says how long it is, so a reader never looks behind the object it reads. What it has
read from some bytes it reads from a longer input as well, with the same result, and the additional
bytes are left. So a document is not cut short anywhere, since what is left of the whole would be
more than nothing, and bytes behind a document change nothing.

## Main definitions

* `MessagePack.leaving` — a result with more bytes left
* `MessagePack.ReadsOn` — what holds of the readers of values and documents at once

## Main results

* `MessagePack.readsOn` — more bytes are left
* `MessagePack.decode_append` — bytes behind a document change nothing
* `MessagePack.eq_nil_of_decode` — the first part of a document is no document
-/

namespace Parcel.MessagePack

/-- A result with the bytes `y` left behind it as well. -/
def leaving {α : Type} (y : Bytes) (p : α × Bytes) : α × Bytes := (p.1, p.2 ++ y)

variable {s rest y : Bytes}

/-! ## Markers -/

theorem split?_extends {n : Nat} {p : Bytes × Bytes} (read : split? n s = some p) (y : Bytes) :
    split? n (s ++ y) = some (leaving y p) := by
  obtain ⟨rfl, rfl⟩ := eq_of_split? read
  rw [List.append_assoc]
  exact split?_append p.1 (p.2 ++ y)

theorem counted_extends {width : Nat} {make : Nat → Head} {p : Head × Bytes}
    (read : counted width make s = some p) (y : Bytes) :
    counted width make (s ++ y) = some (leaving y p) := by
  obtain ⟨digits, split, rfl⟩ := Option.map_eq_some_iff.1 read
  rw [counted, split?_extends split y]
  rfl

theorem signed_extends {width : Nat} {p : Head × Bytes} (read : signed width s = some p)
    (y : Bytes) : signed width (s ++ y) = some (leaving y p) := by
  obtain ⟨digits, split, rfl⟩ := Option.map_eq_some_iff.1 read
  rw [signed, split?_extends split y]
  rfl

/-- A marker is read by `head?` with what it counts, and nothing behind it. -/
theorem head?_extends {p : Head × Bytes} (read : head? s = some p) (y : Bytes) :
    head? (s ++ y) = some (leaving y p) := by
  cases s with
  | nil => cases read
  | cons b s =>
    rw [List.cons_append]
    unfold head? at read ⊢
    dsimp only at read ⊢
    split_ifs at read ⊢
    case pos | pos | pos | pos | pos =>
      cases read
      rfl
    -- beyond the ranges either the marker is all, or a number is counted off behind it
    split at read
    all_goals first
      | exact counted_extends read y
      | exact signed_extends read y
      | cases read; rfl
      | cases read

/-! ## Texts and objects that are skipped -/

theorem rawText?_extends {p : Bytes × Bytes} (read : rawText? s = some p) (y : Bytes) :
    rawText? (s ++ y) = some (leaving y p) := by
  obtain ⟨⟨head, rest⟩, first, read⟩ := Option.bind_eq_some_iff.1 read
  rw [rawText?, head?_extends first y]
  cases head with
  | text n => exact split?_extends read y
  | binary n => exact split?_extends read y
  | _ => cases read

theorem orMalformed_extends {α β : Type} {carry : α → β} {o : Option α} {o' : Option β}
    (more : ∀ {a}, o = some a → o' = some (carry a)) :
    Extends carry (orMalformed o) (orMalformed o') := by
  intro a read
  cases found : o with
  | none =>
    rw [found] at read
    cases read
  | some b =>
    rw [found] at read
    cases read
    rw [more found]
    rfl

theorem text_extends (s y : Bytes) : Extends (leaving y) (text s) (text (s ++ y)) := by
  refine (orMalformed_extends fun read => rawText?_extends read y).bind ?_
  rintro ⟨raw, rest⟩ -
  exact Extends.refl.bind fun t _ => .ok (t, rest)

/-- Content is skipped in a longer input as well. -/
theorem map_split?_extends {n : Nat} (read : (split? n s).map (·.2) = some rest) (y : Bytes) :
    (split? n (s ++ y)).map (·.2) = some (rest ++ y) := by
  obtain ⟨p, split, rfl⟩ := Option.map_eq_some_iff.1 read
  rw [split?_extends split y]
  rfl

/-- Objects are skipped in a longer input as well, also with `more` allowance. -/
theorem skipWithin_extends (fuel : Nat) :
    (∀ {more room s rest}, fuel ≤ more → skipWithin fuel room s = some rest → ∀ y,
      skipWithin more room (s ++ y) = some (rest ++ y)) ∧
    ∀ {more room n s rest}, fuel ≤ more → skipManyWithin fuel room n s = some rest → ∀ y,
      skipManyWithin more room n (s ++ y) = some (rest ++ y) := by
  induction fuel with
  | zero =>
    refine ⟨?_, ?_⟩
    · intro more room s rest le read
      rw [skipWithin] at read
      cases read
    · intro more room n s rest le read y
      cases n <;> rw [skipManyWithin] at read <;> cases read
      rw [skipManyWithin]
  | succ fuel ih =>
    obtain ⟨one, many⟩ := ih
    refine ⟨?_, ?_⟩
    · intro more room s rest le read y
      obtain ⟨more, rfl⟩ := Nat.exists_eq_add_of_le' (Nat.le_trans (Nat.succ_pos fuel) le)
      have le := Nat.le_of_succ_le_succ le
      rw [skipWithin] at read ⊢
      obtain ⟨⟨head, left⟩, first, read⟩ := Option.bind_eq_some_iff.1 read
      rw [head?_extends first y]
      -- a marker tells how many bytes to drop, or how many objects are left to skip
      cases head with
      | text n => exact map_split?_extends read y
      | binary n => exact map_split?_extends read y
      | extension n => exact map_split?_extends read y
      | array n =>
        dsimp only at read
        split at read
        · cases read
        · next room =>
          exact (if_neg room).trans (many le read y)
      | map n =>
        dsimp only at read
        split at read
        · cases read
        · next room =>
          exact (if_neg room).trans (many le read y)
      | _ =>
        cases read
        rfl
    · intro more room n s rest le read y
      obtain ⟨more, rfl⟩ := Nat.exists_eq_add_of_le' (Nat.le_trans (Nat.succ_pos fuel) le)
      have le := Nat.le_of_succ_le_succ le
      cases n with
      | zero =>
        rw [skipManyWithin] at read ⊢
        cases read
        rfl
      | succ n =>
        rw [skipManyWithin] at read ⊢
        obtain ⟨left, first, read⟩ := Option.bind_eq_some_iff.1 read
        rw [one le first y]
        exact many le read y

theorem skip_extends (room : Nat) (s y : Bytes) :
    Extends (· ++ y) (skip room s) (skip room (s ++ y)) := by
  have enough : 2 * s.length + 2 ≤ 2 * (s ++ y).length + 2 := by
    rw [List.length_append]
    omega
  exact orMalformed_extends fun read => (skipWithin_extends _).1 enough read y

/-! ## Headers -/

theorem fieldKey_extends (s y : Bytes) :
    Extends (leaving y) (fieldKey s) (fieldKey (s ++ y)) := by
  refine (orMalformed_extends fun read => head?_extends read y).bind ?_
  rintro ⟨head, rest⟩ -
  cases head with
  | text n => exact (orMalformed_extends fun read => split?_extends read y).bind fun p _ => .ok _
  | binary n => exact (orMalformed_extends fun read => split?_extends read y).bind fun p _ => .ok _
  | integer n natural =>
    cases natural with
    | true => exact .ok _
    | false => exact .error _
  | _ => exact .error _

theorem headerEntries_extends (room : Nat) (h : Header) (seen : List Field) (n : Nat)
    (s y : Bytes) : Extends (leaving y) (headerEntries room h seen n s)
      (headerEntries room h seen n (s ++ y)) := by
  induction n generalizing h seen s with
  | zero => exact .ok (h, s)
  | succ n ih =>
    rw [headerEntries, headerEntries]
    refine (fieldKey_extends s y).bind ?_
    rintro ⟨field?, s⟩ -
    cases field? with
    | none => exact (skip_extends room s y).bind fun s _ => ih h seen s
    | some field =>
      dsimp only [leaving]
      split
      · exact .error _
      · refine (text_extends s y).bind ?_
        rintro ⟨value, s⟩ -
        exact ih _ _ s

theorem headerItems_extends (h : Header) (fields : List Field) (n : Nat) (s y : Bytes) :
    Extends (leaving y) (headerItems h fields n s) (headerItems h fields n (s ++ y)) := by
  induction n generalizing h fields s with
  | zero =>
    rw [headerItems, headerItems]
    exact .ok (h, s)
  | succ n ih =>
    cases fields with
    | nil => exact .error _
    | cons field fields =>
      rw [headerItems, headerItems]
      refine (text_extends s y).bind ?_
      rintro ⟨value, s⟩ -
      exact ih _ _ s

theorem header_extends (room : Nat) (s y : Bytes) :
    Extends (leaving y) (header room s) (header room (s ++ y)) := by
  refine (orMalformed_extends fun read => head?_extends read y).bind ?_
  rintro ⟨head, rest⟩ -
  cases head with
  | map n =>
    dsimp only [leaving]
    split
    · exact .error _
    · exact headerEntries_extends _ _ _ _ _ _
  | array n =>
    dsimp only [leaving]
    split
    · exact .error _
    · exact headerItems_extends _ _ _ _ _
  | binary n =>
    cases n with
    | zero => exact .ok _
    | succ n => exact .error _
  | _ => exact .error _

/-! ## Values and documents -/

/-- The readers with this allowance read on: with at least as much, they give the same from a longer
input. -/
structure ReadsOn (fuel : Nat) : Prop where
  value : ∀ {more}, fuel ≤ more → ∀ room depth s y, Extends (leaving y)
    (valueWithin fuel room depth s) (valueWithin more room depth (s ++ y))
  items : ∀ {more}, fuel ≤ more → ∀ room depth n s y, Extends (leaving y)
    (itemsWithin fuel room depth n s) (itemsWithin more room depth n (s ++ y))
  named : ∀ {more}, fuel ≤ more → ∀ room depth n s y, Extends (leaving y)
    (namedWithin fuel room depth n s) (namedWithin more room depth n (s ++ y))
  document : ∀ {more}, fuel ≤ more → ∀ room depth d n s y, Extends (leaving y)
    (documentWithin fuel room depth d n s) (documentWithin more room depth d n (s ++ y))

section Steps

variable {fuel more : Nat}

theorem itemsWithin_none (fuel room depth : Nat) (s : Bytes) :
    itemsWithin fuel room depth 0 s = .ok ([], s) := by
  cases fuel <;> rw [itemsWithin]

theorem namedWithin_none (fuel room depth : Nat) (s : Bytes) :
    namedWithin fuel room depth 0 s = .ok ([], s) := by
  cases fuel <;> rw [namedWithin]

theorem documentWithin_none (fuel room depth : Nat) (d : Document) (s : Bytes) :
    documentWithin fuel room depth d 0 s = .ok (d, s) := by
  cases fuel <;> rw [documentWithin]

theorem valueWithin_extends (reads : ReadsOn fuel) (le : fuel ≤ more) (room depth : Nat)
    (s y : Bytes) : Extends (leaving y) (valueWithin (fuel + 1) room depth s)
      (valueWithin (more + 1) room depth (s ++ y)) := by
  rw [valueWithin, valueWithin]
  refine (orMalformed_extends fun read => head?_extends read y).bind ?_
  rintro ⟨head, rest⟩ -
  cases head with
  | integer n natural => exact Extends.refl.bind fun i _ => .ok _
  | text n =>
    refine (orMalformed_extends fun read => split?_extends read y).bind ?_
    rintro ⟨raw, rest⟩ -
    dsimp only [leaving]
    split
    · exact .ok _
    · exact .ok _
  | binary n => exact (orMalformed_extends fun read => split?_extends read y).bind fun p _ => .ok _
  | array n =>
    dsimp only [leaving]
    split
    · exact .error _
    · exact (reads.items le _ _ _ _ _).bind fun p _ => .ok _
  | map n =>
    dsimp only [leaving]
    split
    · exact .error _
    · split
      · exact .error _
      · exact (reads.document le _ _ _ _ _ _).bind fun p _ => .ok _
  | extension n => exact .error _
  | _ => exact .ok _

theorem documentWithin_extends (reads : ReadsOn fuel) (le : fuel ≤ more) (room depth : Nat)
    (d : Document) (n : Nat) (s y : Bytes) : Extends (leaving y)
      (documentWithin (fuel + 1) room depth d n s)
      (documentWithin (more + 1) room depth d n (s ++ y)) := by
  cases n with
  | zero =>
    rw [documentWithin_none, documentWithin_none]
    exact .ok (d, s)
  | succ n =>
    rw [documentWithin, documentWithin]
    refine (text_extends s y).bind ?_
    rintro ⟨key, s⟩ -
    dsimp only [leaving]
    split
    · refine (header_extends room s y).bind ?_
      rintro ⟨header, s⟩ -
      exact reads.document le _ _ _ _ _ _
    · split
      · refine (orMalformed_extends fun read => head?_extends read y).bind ?_
        rintro ⟨head, s⟩ -
        cases head with
        | map m =>
          dsimp only [leaving]
          split
          · exact .error _
          · refine (reads.named le _ _ _ _ _).bind ?_
            rintro ⟨values, s⟩ -
            exact reads.document le _ _ _ _ _ _
        | _ => exact .error _
      · exact (skip_extends room s y).bind fun s _ => reads.document le _ _ _ _ _ _

end Steps

/-- The readers call each other with less allowance, so `ReadsOn` says all of them at once, by
induction on `fuel`. -/
theorem readsOn (fuel : Nat) : ReadsOn fuel := by
  induction fuel with
  | zero =>
    -- without allowance there is nothing to read but no objects
    refine ⟨fun _ _ _ _ _ => ?_, fun _ _ _ n s y => ?_, fun _ _ _ n s y => ?_,
      fun _ _ _ d n s y => ?_⟩
    · rw [valueWithin]
      exact .error _
    · cases n with
      | zero =>
        rw [itemsWithin_none, itemsWithin_none]
        exact .ok _
      | succ n =>
        rw [itemsWithin]
        exact .error _
    · cases n with
      | zero =>
        rw [namedWithin_none, namedWithin_none]
        exact .ok _
      | succ n =>
        rw [namedWithin]
        exact .error _
    · cases n with
      | zero =>
        rw [documentWithin_none, documentWithin_none]
        exact .ok _
      | succ n =>
        rw [documentWithin]
        exact .error _
  | succ fuel ih =>
    refine ⟨fun {more} le room depth s y => ?_, fun {more} le room depth n s y => ?_,
      fun {more} le room depth n s y => ?_, fun {more} le room depth d n s y => ?_⟩ <;>
      obtain ⟨more, rfl⟩ := Nat.exists_eq_add_of_le' (Nat.le_trans (Nat.succ_pos fuel) le) <;>
      replace le := Nat.le_of_succ_le_succ le
    · exact valueWithin_extends ih le room depth s y
    · cases n with
      | zero =>
        rw [itemsWithin_none, itemsWithin_none]
        exact .ok _
      | succ n =>
        rw [itemsWithin, itemsWithin]
        refine (ih.value le room depth s y).bind ?_
        rintro ⟨v, s⟩ -
        exact (ih.items le room depth n s y).bind fun p _ => .ok _
    · cases n with
      | zero =>
        rw [namedWithin_none, namedWithin_none]
        exact .ok _
      | succ n =>
        rw [namedWithin, namedWithin]
        refine (text_extends s y).bind ?_
        rintro ⟨name, s⟩ -
        refine (ih.value le room depth s y).bind ?_
        rintro ⟨v, s⟩ -
        exact (ih.named le room depth n s y).bind fun p _ => .ok _
    · exact documentWithin_extends ih le room depth d n s y

/-! ## Inputs -/

/-- Whatever bytes `y` follow a document, it is read as before. -/
theorem decode_append {d : Document} (decoded : decode s = .ok d) (y : Bytes) :
    decode (s ++ y) = .ok d := by
  have enough : 2 * s.length + 2 ≤ 2 * (s ++ y).length + 2 := by
    rw [List.length_append]
    omega
  have extends_id : Extends id (decode s) (decode (s ++ y)) := by
    refine (orMalformed_extends fun read => head?_extends read y).bind ?_
    rintro ⟨head, rest⟩ -
    cases head with
    | map n => exact ((readsOn _).document enough _ _ _ _ _ _).bind fun p _ => .ok p.1
    | _ => exact .error _
  exact extends_id d decoded

/-- Nothing is missing at the end of what is read as a document, so `q` is empty: whatever were
missing would be left when the whole is read. -/
theorem eq_nil_of_decode {d e : Document} {p q : Bytes} (short : ∀ n ∈ lengths d, n < 2 ^ 32)
    (whole : encode d = p ++ q) (decoded : decode p = .ok e) : q = [] := by
  obtain ⟨⟨head, rest⟩, first, read⟩ := Except.exists_of_bind_eq_ok decoded
  cases head with
  | map n =>
    obtain ⟨⟨_, left⟩, inside, -⟩ := Except.exists_of_bind_eq_ok read
    have marker := head?_encode d
    rw [whole, head?_extends (eq_some_of_orMalformed first) q] at marker
    obtain ⟨⟨rfl⟩, (entries_eq : rest ++ q = entries d)⟩ := Prod.mk.inj (Option.some.inj marker)
    obtain ⟨fuel, le, enough⟩ : ∃ fuel, 2 * p.length + 2 ≤ fuel ∧ 2 * (entries d).length ≤ fuel :=
      ⟨_, Nat.le_max_left _ _, Nat.le_max_right _ _⟩
    have again := (readsOn _).document le _ _ _ _ _ q _ inside
    have gives := documentWithin_entries short enough (nestingLimit - 2) 0 []
    rw [List.append_nil, ← entries_eq] at gives
    have nothing : left ++ q = [] := congrArg Prod.snd (gives.eq_of_eq_ok again)
    exact (List.append_eq_nil_iff.1 nothing).2
  | _ => cases read

end Parcel.MessagePack
