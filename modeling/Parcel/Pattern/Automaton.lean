import Std.Data.HashMap
import Parcel.Pattern.Expression
import Parcel.Pattern.BytePath

/-!
# Automata

The memory of the automaton that recognises an expression. Automata read bytes; the states are
built part by part, and repetitions are written out. Two automata are built for every expression,
one that reads forwards and one that reads backwards. Only the numbers of states and bytes are
kept here, since nothing else is asked of the automata.

Most states lead on to one other state. A set of ASCII characters is one state with a transition
for every span. Other sets are built along their byte paths, with a memo for states that are needed
again: forwards a state with its transitions, backwards a byte range with the state that it leads
to. A fork leads on to any number of states; to join a part that ends in a fork to what follows
takes memory for one more way.

## Main definitions

* `Parcel.Automaton`, `Automaton.build`
* `Expression.fits` — whether the automata stay within the limit
-/

namespace Parcel

/-- A memo with a fixed number of slots. The key decides on the slot, and a new entry drives out the
one before it. -/
structure Memo where
  /-- Number of slots. -/
  capacity : Nat
  /-- The slots that are taken, with key and value. -/
  slots : Std.HashMap Nat (List Nat × Nat) := {}

namespace Memo

/-- The hash of a key: every number is added bit by bit, and the sum is multiplied. -/
def hash (key : List Nat) : UInt64 :=
  key.foldl (fun h n => (h ^^^ n.toUInt64) * 0x100000001B3) 0xCBF29CE484222325

/-- The slot of a key. -/
def slot (m : Memo) (key : List Nat) : Nat := (hash key).toNat % m.capacity

/-- The value of a key. -/
def find? (m : Memo) (key : List Nat) : Option Nat :=
  match m.slots[m.slot key]? with
  | some (k, value) => if k = key then some value else none
  | none => none

/-- The memo with one more entry. -/
def insert (m : Memo) (key : List Nat) (value : Nat) : Memo :=
  { m with slots := m.slots.insert (m.slot key) (key, value) }

end Memo

/-- The memory of the states of an automaton. -/
structure Automaton where
  /-- Number of states. -/
  states : Nat
  /-- Number of bytes. -/
  bytes : Nat
  deriving DecidableEq, Inhabited

namespace Automaton

/-- Before anything is built. -/
def start : Automaton := ⟨0, 0⟩

/-- The greatest memory of an automaton in bytes. -/
def limit : Nat := 10 * 1024 * 1024

/-- So many bytes more. -/
def grow (n : Nat) (a : Automaton) : Automaton := { a with bytes := a.bytes + n }

/-- So many states more, without further memory. -/
def add (n : Nat) (a : Automaton) : Automaton := ⟨a.states + n, a.bytes + 32 * n⟩

/-- A state with a list of transitions more. -/
def addTransitions (n : Nat) (a : Automaton) : Automaton := (a.add 1).grow (8 * n)

/-- A fork with so many ways more. -/
def addFork (n : Nat) (a : Automaton) : Automaton := (a.add 1).grow (4 * n)

/-! ## Sets -/

/-- An automaton with a memo of its states. -/
structure Sharing where
  /-- The automaton. -/
  automaton : Automaton
  /-- The states that can be used again. -/
  memo : Memo

/-- The state of a key, which is built if it is not at hand. -/
def Sharing.state (key : List Nat) (transitions : Nat) (s : Sharing) : Nat × Sharing :=
  match s.memo.find? key with
  | some id => (id, s)
  | none =>
    let id := s.automaton.states
    (id, ⟨s.automaton.addTransitions transitions, s.memo.insert key id⟩)

/-- The state from which the given paths lead to the target, the paths being no longer than
`depth`. -/
def forwardState (target : Nat) : Nat → List BytePath → Sharing → Nat × Sharing
  | 0, _, s => (target, s)
  | depth + 1, paths, s =>
    if paths.all (·.isEmpty) then (target, s)
    else
      let (key, s) := (BytePath.groups paths).foldl
        (fun (key, s) (r, rest) =>
          let (next, s) := forwardState target depth rest s
          (next :: r.last.toNat :: r.first.toNat :: key, s))
        ([], s)
      s.state key.reverse (key.length / 3)

/-- A path of states that leads backwards to the target. -/
def backwardPath (target : Nat) (path : BytePath) (s : Sharing) : Sharing :=
  let (_, s) := path.foldl
    (fun (next, s) r => s.state [next, r.first.toNat, r.last.toNat] 0) (target, s)
  { s with automaton := s.automaton.grow 4 }

/-- The states of a set. -/
def addSet (back : Bool) (set : CharSet) (a : Automaton) : Automaton :=
  if set.isAscii then (a.add 1).addTransitions set.spans.length
  else if back then
    let target := a.states + 1
    (set.paths.foldl (fun s path => backwardPath target path s) ⟨a.add 2, ⟨1000, {}⟩⟩).automaton
  else (forwardState a.states 5 set.paths ⟨a.add 1, ⟨10000, {}⟩⟩).2.automaton

/-! ## Alternatives of literal text -/

/-- Words that begin alike are taken together. -/
def byFirst : List Bytes → List (UInt8 × List Bytes)
  | [] => []
  | [] :: words => byFirst words
  | (b :: word) :: words =>
    let groups := byFirst words
    match groups.find? (·.1 = b) with
    | some (_, rest) => (b, word :: rest) :: groups.filter (·.1 ≠ b)
    | none => (b, [word]) :: groups

/-- The words between those that are empty. -/
def betweenEmpty : List Bytes → List (List Bytes)
  | [] => [[]]
  | [] :: words => [] :: betweenEmpty words
  | word :: words =>
    match betweenEmpty words with
    | [] => [[word]]
    | first :: rest => (word :: first) :: rest

/-- The words in the order of preference, cut where one of them is complete; it need not be said
twice in the beginning. -/
def chunks (words : List Bytes) : List (List Bytes) :=
  let rest := words.dropWhile (·.isEmpty)
  if rest.length < words.length then [] :: betweenEmpty rest else betweenEmpty rest

/-- The states of some words that share what they begin with, the words being shorter than the
first number. Every point where words part is a fork, and one where a word is complete as well. -/
def addWords : Nat → List Bytes → Automaton → Automaton
  | 0, _, a => a
  | fuel + 1, words, a =>
    let chunks := (chunks words).map byFirst
    let a := chunks.foldl
      (fun a groups =>
        let a := groups.foldl
          (fun a (_, rest) => if rest.all (·.isEmpty) then a else addWords fuel rest a) a
        match groups with
        | [] => a
        | [_] => a.add 1
        | _ => a.addTransitions groups.length) a
    a.addFork ((chunks.filter (!·.isEmpty)).length + chunks.length - 1)

/-! ## Expressions -/

/-- An automaton, and whether the part that was built last ends in a fork. -/
abbrev Part := Automaton × Bool

/-- Joins a part to what follows it. -/
def Part.joined (p : Part) : Automaton := if p.2 then p.1.grow 4 else p.1

/-- So many further parts, each built after the one before it, unless the limit is passed. -/
def buildMore (part : Automaton → Part) : Nat → Part → Part
  | 0, p => p
  | n + 1, p => if limit < p.1.bytes then p else buildMore part n (part p.joined)

/-- Exactly `n` parts. -/
def buildTimes (part : Automaton → Part) (n : Nat) (a : Automaton) : Part :=
  if n = 0 then (a.add 1, false) else buildMore part n (a, false)

/-- A repetition of a part; `nonempty` tells whether the part is never empty. -/
def buildRepetition (part : Automaton → Part) (nonempty : Bool) (least : Nat)
    (most : Option Nat) (a : Automaton) : Part :=
  match least, most with
  | 0, some 1 => ((part (a.addFork 2)).joined.add 1, false)
  | 0, none =>
    if nonempty then ((part (a.addFork 1)).joined, true)
    -- one repetition or more, or nothing, where the part itself may be empty
    else ((((part a).joined.addFork 2).addFork 2).add 1, false)
  | 1, none => ((part a).joined.addFork 1, true)
  | n + 2, none => ((part (buildTimes part (n + 1) a).joined).joined.addFork 1, true)
  | n, some m =>
    let p := buildTimes part n a
    if m ≤ n then p
    else
      ((buildMore (fun a => part (a.addFork 2)) (m - n) (p.1.add 1, p.2)).joined, false)

/-- The text of a literal in bytes. -/
def word? (back : Bool) : Expression → Option Bytes
  | .literal text => some (if back then (Utf8.encodeChars text).reverse else Utf8.encodeChars text)
  | _ => none

mutual

/-- The states of an expression, read forwards or backwards. Only forwards is it recorded where
groups begin and end. -/
def build (back : Bool) : Expression → Automaton → Part
  | .nothing, a => (a.add 1, false)
  | .literal text, a => (a.add (Utf8.encodeChars text).length, false)
  | .one set, a => (a.addSet back set, false)
  | .assertion _, a => (a.add 1, false)
  | .repetition e least most _, a =>
    buildRepetition (build back e) e.extent.isNonempty least most a
  | .group _ e, a =>
    if back then build back e a else ((build back e (a.add 1)).joined.add 1, false)
  | .sequence es, a => if back then buildBackwards es (a, false) else buildForwards es (a, false)
  | .choice es, a =>
    match es.mapM (word? back) with
    | some words => (addWords ((words.map (·.length)).foldl max 0 + 1) words (a.add 1), false)
    | none => (buildEach back 0 es a, false)

/-- Parts one after the other, read forwards. -/
def buildForwards : List Expression → Part → Part
  | [], p => p
  | e :: es, p => buildForwards es (build false e p.joined)

/-- Parts one after the other, read backwards. -/
def buildBackwards : List Expression → Part → Part
  | [], p => p
  | e :: es, p => build true e (buildBackwards es p).joined

/-- Alternatives, of which `n` have been built. The fork between them and the state where they meet
come after the second one. -/
def buildEach (back : Bool) (n : Nat) : List Expression → Automaton → Automaton
  | [], a => a
  | e :: es, a =>
    let a := (build back e a).joined.grow 4
    buildEach back (n + 1) es (if n = 1 then a.add 2 else a)

end

/-- The whole automaton of the expression `e`. Unless the expression holds on to the end of the text
where reading begins, all bytes before it are passed over first. -/
def ofExpression (back : Bool) (e : Expression) : Automaton :=
  let isHeld := if back then e.extent.closes else e.extent.opens
  let a := if isHeld then start.add 1 else ((start.addFork 2).add 1).addTransitions 1
  (build back (.group 0 e) a).joined.add 1

end Automaton

/-- Whether the automata of an expression stay within the limit. -/
def Expression.fits (e : Expression) : Bool :=
  (Automaton.ofExpression false e).bytes ≤ Automaton.limit &&
    (Automaton.ofExpression true e).bytes ≤ Automaton.limit

end Parcel
