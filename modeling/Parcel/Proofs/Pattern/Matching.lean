import Mathlib.Data.Nat.Bitwise
import Parcel.Pattern.Overlay

/-!
# Matching a whole text

Between the assertions of the start and the end of a text, an expression describes some part of the
text exactly when it describes the whole of it. The functions that put expressions together simplify
them, which does not show in the positions where their texts end.

## Main definitions

* `Positions.Within` — positions of a text
* `Expression.spans` — the whole text is as the expression says

## Main results

* `Expression.ends_inSequence` — parts one after the other end where the last one does
* `Expression.occursIn_enclosed` — matching between the two assertions
-/

namespace Parcel

/-! ## Positions -/

namespace Positions

/-- All positions are those of a text of the given `length`. -/
def Within (length : Nat) (s : Positions) : Prop := ∀ i, s.testBit i → i ≤ length

variable {length n : Nat} {s t : Positions} {round : Positions → Positions}

theorem testBit_all (length i : Nat) : (all length).testBit i = decide (i ≤ length) := by
  rw [decide_eq_decide.2 Nat.lt_succ_iff.symm]
  exact Nat.testBit_two_pow_sub_one (length + 1) i

theorem within_all (length : Nat) : Within length (all length) := by
  intro i bit
  rw [testBit_all] at bit
  exact of_decide_eq_true bit

theorem Within.and_all (within : Within length s) : s &&& all length = s := by
  refine Nat.eq_of_testBit_eq fun i => ?_
  rw [Nat.testBit_and, testBit_all]
  cases bit : s.testBit i with
  | false => rfl
  | true => exact decide_eq_true (within i bit)

theorem Within.and (within : Within length s) (t : Positions) : Within length (s &&& t) := by
  intro i bit
  rw [Nat.testBit_and, Bool.and_eq_true] at bit
  exact within i bit.1

theorem Within.or (left : Within length s) (right : Within length t) :
    Within length (s ||| t) := by
  intro i bit
  rw [Nat.testBit_or, Bool.or_eq_true] at bit
  exact bit.elim (left i) (right i)

theorem testBit_ofFlags (flags : List Bool) (i : Nat) :
    (ofFlags flags).testBit i = flags.getD i false := by
  induction flags generalizing i with
  | nil => simp [ofFlags]
  | cons flag flags ih =>
    have step : ofFlags (flag :: flags) = 2 * ofFlags flags + flag.toNat := rfl
    cases i with
    | zero => cases flag <;> simp [step, Nat.testBit_zero]
    | succ i =>
      have half (n : Nat) : (2 * n + flag.toNat) / 2 = n := by
        have := flag.toNat_lt
        omega
      rw [step, Nat.testBit_succ, half, ih]
      rfl

/-- A character of the text is passed. -/
theorem within_step (s : Positions) (flags : List Bool) :
    Within flags.length ((s &&& ofFlags flags) <<< 1) := by
  intro i bit
  rw [Nat.testBit_shiftLeft, Bool.and_eq_true, Nat.testBit_and, Bool.and_eq_true,
    testBit_ofFlags] at bit
  obtain ⟨positive, -, flag⟩ := bit
  have positive := of_decide_eq_true positive
  have inside : i - 1 < flags.length := by
    by_contra outside
    rw [List.getD_eq_default _ _ (Nat.le_of_not_lt outside)] at flag
    cases flag
  omega

theorem within_after (keeps : ∀ {s}, Within length s → Within length (round s))
    (within : Within length s) : Within length (after round n s) := by
  induction n generalizing s with
  | zero => exact within
  | succ n ih =>
    rw [after]
    split
    · exact within
    · exact ih (keeps within)

theorem within_within (keeps : ∀ {s}, Within length s → Within length (round s))
    (inside : Within length s) : Within length (within round n s) := by
  induction n generalizing s with
  | zero => exact inside
  | succ n ih =>
    rw [Positions.within]
    split
    · exact inside
    · exact ih (inside.or (keeps inside))

end Positions

namespace Expression

open Positions

variable {text : List Char} {s : Positions}

/-! ## Positions stay in the text -/

theorem within_literal (cs : List Char) (inside : Within text.length s) :
    Within text.length ((overlay text (literal cs)).ends s) := by
  induction cs generalizing s with
  | nil => exact inside.and _
  | cons c cs ih =>
    have step := within_step s (text.map (· == c))
    rw [List.length_map] at step
    exact ih step

mutual

theorem within_ends : (e : Expression) → ∀ {s}, Within text.length s →
    Within text.length ((overlay text e).ends s)
  | nothing, _, inside => inside.and _
  | literal cs, _, inside => within_literal cs inside
  | one set, s, _ => by
    have step := within_step s (text.map set.mem)
    rwa [List.length_map] at step
  | assertion _, _, inside => inside.and _
  | repetition e _ _ _, _, inside => by
    rw [overlay, Overlay.ends]
    exact within_within (within_ends e) (within_after (within_ends e) inside)
  | group _ e, _, inside => within_ends e inside
  | sequence es, _, inside => within_endsAll es inside
  | choice es, _, inside => within_endsAny es inside

theorem within_endsAll : (es : List Expression) → ∀ {s}, Within text.length s →
    Within text.length ((overlayAll text es).ends s)
  | [], _, inside => inside.and _
  | e :: es, _, inside => within_endsAll es (within_ends e inside)

theorem within_endsAny : (es : List Expression) → ∀ {s}, Within text.length s →
    Within text.length ((overlayAny text es).ends s)
  | [], _, inside => inside.and _
  | e :: es, _, inside => (within_ends e inside).or (within_endsAny es inside)

end

/-! ## Parts one after the other -/

theorem endsAll_append (es fs : List Expression) (inside : Within text.length s) :
    (overlayAll text (es ++ fs)).ends s =
      (overlayAll text fs).ends ((overlayAll text es).ends s) := by
  induction es generalizing s with
  | nil =>
    change _ = (overlayAll text fs).ends (s &&& .all text.length)
    rw [inside.and_all]
    rfl
  | cons e es ih => exact ih (within_ends e inside)

theorem endsAll_singleton (e : Expression) (inside : Within text.length s) :
    (overlayAll text [e]).ends s = (overlay text e).ends s :=
  (within_ends e inside).and_all

theorem endsAll_parts (e : Expression) (inside : Within text.length s) :
    (overlayAll text e.parts).ends s = (overlay text e).ends s := by
  cases e with
  | nothing => rfl
  | sequence es => rfl
  | _ => exact endsAll_singleton _ inside

theorem endsAll_flatMap_parts (es : List Expression) (inside : Within text.length s) :
    (overlayAll text (es.flatMap parts)).ends s = (overlayAll text es).ends s := by
  induction es generalizing s with
  | nil => rfl
  | cons e es ih =>
    rw [List.flatMap_cons, endsAll_append _ _ inside, endsAll_parts e inside,
      ih (within_ends e inside)]
    rfl

theorem ends_literal_append (cs ds : List Char) (inside : Within text.length s) :
    (overlay text (literal (cs ++ ds))).ends s =
      (overlay text (literal ds)).ends ((overlay text (literal cs)).ends s) := by
  induction cs generalizing s with
  | nil =>
    change _ = (overlay text (literal ds)).ends (s &&& .all text.length)
    rw [inside.and_all]
    rfl
  | cons c cs ih =>
    have step := within_step s (text.map (· == c))
    rw [List.length_map] at step
    exact ih step

/-- Texts that are joined by `before` end where the second one does. -/
theorem endsAll_before (e : Expression) (es : List Expression) (inside : Within text.length s) :
    (overlayAll text (e.before es)).ends s = (overlayAll text (e :: es)).ends s := by
  unfold before
  -- two texts in a row become one
  split
  · next cs ds rest =>
    change (overlayAll text rest).ends ((overlay text (literal (cs ++ ds))).ends s) = _
    rw [ends_literal_append cs ds inside]
    rfl
  · rfl

theorem endsAll_foldr_before (es : List Expression) (inside : Within text.length s) :
    (overlayAll text (es.foldr before [])).ends s = (overlayAll text es).ends s := by
  induction es generalizing s with
  | nil => rfl
  | cons e es ih =>
    rw [List.foldr_cons, endsAll_before _ _ inside]
    exact ih (within_ends e inside)

/-- What is put `inSequence` ends where the parts one after the other do. -/
theorem ends_inSequence (es : List Expression) (inside : Within text.length s) :
    (overlay text (inSequence es)).ends s = (overlayAll text es).ends s := by
  rw [← endsAll_flatMap_parts es inside, ← endsAll_foldr_before _ inside, inSequence]
  split
  · next eq => rw [eq]; rfl
  · next e eq => rw [eq, endsAll_singleton e inside]
  · rfl

/-! ## The whole text -/

/-- Whether the whole text is as the expression says. -/
def spans (e : Expression) (text : List Char) : Bool :=
  ((e.overlay text).ends 1).testBit text.length

/-- An expression between the assertions of the start and the end of the text. -/
def enclosed (e : Expression) : Expression :=
  inSequence [assertion .textStart, e, assertion .textEnd]

theorem ofFlags_none (text : List Char) : ofFlags (text.map fun _ => false) = 0 := by
  induction text with
  | nil => rfl
  | cons c text ih => exact congrArg (2 * · + 0) ih

theorem ofFlags_last (text : List Char) :
    ofFlags (text.map (fun _ => false) ++ [true]) = 2 ^ text.length := by
  induction text with
  | nil => rfl
  | cons c text ih =>
    rw [List.length_cons, Nat.pow_succ, Nat.mul_comm, ← ih]
    rfl

/-- Only the first position is at the start. -/
theorem overlay_textStart (text : List Char) : overlay text (assertion .textStart) = .keep 1 := by
  have starts : (neighbours text).map (fun p => Assertion.textStart.holds p.1 p.2) =
      true :: text.map fun _ => false := by
    have before : (neighbours text).map Prod.fst = none :: text.map some :=
      List.map_fst_zip (by simp)
    change (neighbours text).map (Option.isNone ∘ Prod.fst) = _
    rw [← List.map_map, before, List.map_cons, List.map_map]
    rfl
  rw [overlay]
  exact (congrArg (fun flags => Overlay.keep (ofFlags flags)) starts).trans
    (congrArg (fun n => Overlay.keep (2 * n + 1)) (ofFlags_none text))

/-- Only the last position is at the end. -/
theorem overlay_textEnd (text : List Char) :
    overlay text (assertion .textEnd) = .keep (2 ^ text.length) := by
  have finishes : (neighbours text).map (fun p => Assertion.textEnd.holds p.1 p.2) =
      text.map (fun _ => false) ++ [true] := by
    have behind : (neighbours text).map Prod.snd = text.map some ++ [none] :=
      List.map_snd_zip (by simp)
    change (neighbours text).map (Option.isNone ∘ Prod.snd) = _
    rw [← List.map_map, behind, List.map_append, List.map_map]
    rfl
  rw [overlay]
  exact (congrArg (fun flags => Overlay.keep (ofFlags flags)) finishes).trans
    (congrArg Overlay.keep (ofFlags_last text))

/-- An `enclosed` expression occurs in some part of the text exactly when the expression spans the
whole text. -/
theorem occursIn_enclosed (e : Expression) (text : List Char) :
    e.enclosed.occursIn text = e.spans text := by
  have first : all text.length &&& 1 = 1 := by
    refine Nat.eq_of_testBit_eq fun i => ?_
    rw [Nat.testBit_and, testBit_all]
    cases i with
    | zero => rfl
    | succ i =>
      have off : Nat.testBit 1 (i + 1) = false := by
        rw [Nat.testBit_succ]
        exact Nat.zero_testBit i
      rw [off, Bool.and_false]
  have inside : Within text.length 1 := first ▸ (within_all text.length).and 1
  have ends : (e.enclosed.overlay text).ends (all text.length) =
      ((e.overlay text).ends 1 &&& 2 ^ text.length) := by
    rw [enclosed, ends_inSequence _ (within_all text.length)]
    simp only [overlayAll, overlay_textStart, overlay_textEnd, Overlay.ends, first]
    exact ((within_ends e inside).and _).and_all
  rw [occursIn, ends, Nat.and_two_pow, spans]
  cases (Nat.testBit ((e.overlay text).ends 1) text.length) <;> simp

end Expression

end Parcel
