import Parcel.Pattern.Expression

/-!
# Overlays

The search for a part of a text that is as an expression says. An expression is first laid over the
text, which turns its sets and assertions into sets of positions. The search then takes the
positions where a part may begin to those where it may end, so that repetition is iteration and no
choice has to be taken back.

## Main definitions

* `Parcel.Overlay`, `Overlay.ends` — from starting positions to end positions
* `Expression.occursIn` — whether some part of a text is as the expression says
-/

namespace Parcel

/-- A set of positions in a text: bit `i` is set when position `i` is in it. -/
abbrev Positions := Nat

namespace Positions

/-- The positions of the entries that are true. -/
def ofFlags (flags : List Bool) : Positions :=
  flags.foldr (fun flag rest => 2 * rest + flag.toNat) 0

/-- The positions of a text of the given length. -/
def all (length : Nat) : Positions := Nat.pow 2 (length + 1) - 1

/-- The positions after exactly `n` rounds. -/
def after (round : Positions → Positions) : Nat → Positions → Positions
  | 0, s => s
  | n + 1, s =>
    let next := round s
    if next = s then s else after round n next

/-- The positions after at most `n` rounds. -/
def within (round : Positions → Positions) : Nat → Positions → Positions
  | 0, s => s
  | n + 1, s =>
    let next := s ||| round s
    if next = s then s else within round n next

end Positions

/-- An expression laid over a text. -/
inductive Overlay where
  /-- It is empty, at one of the positions of `allowed`. -/
  | keep (allowed : Positions)
  /-- It is one character, at one of the positions of `allowed`. -/
  | step (allowed : Positions)
  /-- It is one part after another. -/
  | sequence (first second : Overlay)
  /-- It is as one of two overlays says. -/
  | choice (first second : Overlay)
  /-- It is so many parts, at most `more` beyond the least number. -/
  | repetition (e : Overlay) (least more : Nat)

/-- The positions where a part of the text may end that begins at one of the given positions. -/
def Overlay.ends : Overlay → Positions → Positions
  | keep allowed, s => s &&& allowed
  | step allowed, s => (s &&& allowed) <<< 1
  | sequence first second, s => second.ends (first.ends s)
  | choice first second, s => first.ends s ||| second.ends s
  | repetition e least more, s => Positions.within e.ends more (Positions.after e.ends least s)

namespace Expression

/-- The characters before and after every position of a text. -/
def neighbours (text : List Char) : List (Option Char × Option Char) :=
  (none :: text.map some).zip (text.map some ++ [none])

mutual

/-- The expression laid over a text. No part can be longer than the text, so more rounds than it has
positions add nothing. -/
def overlay (text : List Char) : Expression → Overlay
  | nothing => .keep (.all text.length)
  | literal cs =>
    cs.foldr (fun c rest => .sequence (.step (.ofFlags (text.map (· == c)))) rest)
      (.keep (.all text.length))
  | one set => .step (.ofFlags (text.map set.mem))
  | assertion a => .keep (.ofFlags ((neighbours text).map fun (b, c) => a.holds b c))
  | repetition e least most _ =>
    .repetition (overlay text e) least (most.elim (text.length + 1) (· - least))
  | group _ e => overlay text e
  | sequence es => overlayAll text es
  | choice es => overlayAny text es

/-- Parts one after the other laid over a text. -/
def overlayAll (text : List Char) : List Expression → Overlay
  | [] => .keep (.all text.length)
  | e :: es => .sequence (overlay text e) (overlayAll text es)

/-- Alternatives laid over a text. -/
def overlayAny (text : List Char) : List Expression → Overlay
  | [] => .keep 0
  | e :: es => .choice (overlay text e) (overlayAny text es)

end

/-- Whether some part of `text` is as the expression says. -/
def occursIn (e : Expression) (text : List Char) : Bool :=
  (e.overlay text).ends (.all text.length) != 0

end Expression

end Parcel
