import Parcel.Proofs.Delimited.Scanned

/-!
# Where entries lie

A scan moves forward over its input and counts the bytes that it passes. So at every place the bytes
that are left are those of the input behind as many bytes as were counted, and whatever is cut out
there lies in the input at the offset that it is given. This holds of any input, whether or not it
was written as a document.

## Main definitions

* `Slice.LiesIn` — the bytes of a slice are those of an input at its place
* `Cursor.LeadsTo` — one place comes after another
* `Cursor.Meets` — a slice is ahead of a place
* `Delimited.PairSpan` — the pair that an entry was cut from
* `Delimited.PairReader.Run` — pairs that are read one after the other

## Main results

* `Delimited.pairSpan_of_valuePair` — an entry is cut from one pair
* `Delimited.PairReader.run_of_pairs` — the pairs of a block come one after the other
* `Delimited.liesIn_of_scan` — names and payloads lie in the input
-/

namespace Parcel

/-- A slice lies in the input `s` when its bytes stand there from its start to its stop. -/
structure Slice.LiesIn (slice : Slice) (s : Bytes) : Prop where
  stop_le : slice.stop ≤ s.length
  extract : s.extract slice.start slice.stop = slice.bytes

theorem Slice.liesIn_append {x bytes y : Bytes} :
    Slice.LiesIn ⟨x.length, bytes⟩ (x ++ (bytes ++ y)) := by
  constructor
  · simp [Slice.stop]
  · simp [Slice.stop]

namespace Delimited

/-! ## Places -/

namespace Cursor

/-- The place `d` comes after `c`, and is as many bytes further as were passed. -/
def LeadsTo (c d : Cursor) : Prop := ∃ x, c.rest = x ++ d.rest ∧ d.offset = c.offset + x.length

/-- A slice is ahead of the place `c`. -/
def Meets (c : Cursor) (slice : Slice) : Prop := ∃ y, c.LeadsTo ⟨slice.start, slice.bytes ++ y⟩

variable {b : UInt8} {c d e : Cursor} {slice : Slice}

theorem LeadsTo.refl (c : Cursor) : c.LeadsTo c := ⟨[], rfl, rfl⟩

theorem LeadsTo.trans (first : c.LeadsTo d) (second : d.LeadsTo e) : c.LeadsTo e := by
  obtain ⟨x, rest, offset⟩ := first
  obtain ⟨y, rest', offset'⟩ := second
  refine ⟨x ++ y, by rw [rest, rest', List.append_assoc], ?_⟩
  rw [offset', offset, List.length_append, Nat.add_assoc]

theorem leadsTo_tail (offset : Nat) (b : UInt8) (rest : Bytes) :
    LeadsTo ⟨offset, b :: rest⟩ ⟨offset + 1, rest⟩ := ⟨[b], rfl, rfl⟩

theorem LeadsTo.meets (leads : c.LeadsTo d) (ahead : d.Meets slice) : c.Meets slice := by
  obtain ⟨y, further⟩ := ahead
  exact ⟨y, leads.trans further⟩

/-- What is ahead of the beginning of an input `LiesIn` it. -/
theorem Meets.liesIn {s : Bytes} (ahead : Meets ⟨0, s⟩ slice) : slice.LiesIn s := by
  obtain ⟨y, x, rest, offset⟩ := ahead
  obtain ⟨start, bytes⟩ := slice
  dsimp only at rest offset
  rw [Nat.zero_add] at offset
  subst rest offset
  exact Slice.liesIn_append

/-! ## Steps -/

theorem leadsTo_skipBlanksFrom (offset : Nat) (s : Bytes) :
    LeadsTo ⟨offset, s⟩ (skipBlanksFrom offset s) := by
  induction s generalizing offset with
  | nil => exact .refl _
  | cons b s ih =>
    rw [skipBlanksFrom]
    split
    · exact (leadsTo_tail offset b s).trans (ih (offset + 1))
    · exact .refl _

theorem leadsTo_skipBlanks (c : Cursor) : c.LeadsTo c.skipBlanks := leadsTo_skipBlanksFrom _ _

theorem leadsTo_of_eat? (eaten : c.eat? b = some d) : c.LeadsTo d := by
  obtain ⟨offset, rest⟩ := c
  rw [eat?] at eaten
  split at eaten
  · next x rest shape =>
    split at eaten
    · cases eaten
      exact ⟨[x], shape, rfl⟩
    · cases eaten
  · cases eaten

theorem leadsTo_eatOptional (b : UInt8) (c : Cursor) : c.LeadsTo (c.eatOptional b) := by
  rw [eatOptional]
  cases eaten : c.eat? b with
  | none => exact .refl c
  | some d => exact leadsTo_of_eat? eaten

theorem leadsTo_of_eatAll? {mark : Bytes} (eaten : c.eatAll? mark = some d) : c.LeadsTo d := by
  obtain ⟨rest, shape, rfl⟩ := Option.map_eq_some_iff.1 eaten
  exact ⟨mark, (List.isPrefixOf?_eq_some_iff_append_eq.1 shape).symm, rfl⟩

theorem leadsTo_of_expect {char : Char} (eaten : c.expect char = .ok d) : c.LeadsTo d := by
  rw [expect] at eaten
  split at eaten
  · next found =>
    cases eaten
    exact leadsTo_of_eat? found
  · cases eaten

/-- What `upTo` cuts at a character starts here, and the character is passed. -/
theorem eq_of_upTo {char : Char} (cut : c.upTo char = .ok (slice, d)) :
    c.rest = slice.bytes ++ Bytes.ofChar char :: d.rest ∧ slice.start = c.offset ∧
      d.offset = slice.stop + 1 := by
  rw [upTo] at cut
  split at cut
  · cases cut
  · next b rest shape =>
    cases cut
    have stop : b = Bytes.ofChar char := by
      have more : c.rest.dropWhile (· != Bytes.ofChar char) ≠ [] := by simp [shape]
      have kept := List.head_dropWhile_not (· != Bytes.ofChar char) more
      simpa [shape] using kept
    refine ⟨?_, rfl, rfl⟩
    change c.rest = c.rest.takeWhile _ ++ Bytes.ofChar char :: rest
    rw [← stop, ← shape, stop, List.takeWhile_append_dropWhile]

end Cursor

/-- Where two bytes are found side by side, they stand behind what was passed, the `x` here. -/
theorem exists_of_offsetOfPairFrom {first second : UInt8} {s : Bytes} {i n : Nat}
    (found : Bytes.offsetOfPairFrom first second i s = some n) :
    ∃ x y, s = x ++ first :: second :: y ∧ n = i + x.length := by
  induction s generalizing i with
  | nil => cases found
  | cons b s ih =>
    rw [Bytes.offsetOfPairFrom] at found
    split_ifs at found with here
    · cases found
      obtain ⟨same, next⟩ := Bool.and_eq_true_iff.1 here
      obtain rfl := beq_iff_eq.1 same
      obtain ⟨y, rfl⟩ := List.head?_eq_some_iff.1 (beq_iff_eq.1 next)
      exact ⟨[], y, rfl, rfl⟩
    · obtain ⟨x, y, rfl, rfl⟩ := ih found
      refine ⟨b :: x, y, rfl, ?_⟩
      rw [List.length_cons]
      omega

/-- What `upToTerminator` cuts at the end of a pair starts here, and the end is passed. -/
theorem Cursor.eq_of_upToTerminator {c d : Cursor} {slice : Slice}
    (cut : c.upToTerminator = .ok (slice, d)) :
    c.rest = slice.bytes ++ (terminator ++ d.rest) ∧ slice.start = c.offset ∧
      d.offset = slice.stop + 2 := by
  obtain ⟨offset, rest⟩ := c
  rw [upToTerminator] at cut
  split at cut
  · cases cut
  · next n found =>
    obtain ⟨x, y, shape, size⟩ := exists_of_offsetOfPairFrom found
    dsimp only at shape
    subst shape
    rw [Nat.zero_add] at size
    cases cut
    have front : (x ++ Bytes.ofChar ']' :: Bytes.ofChar ';' :: y).take n = x := by
      rw [size, List.take_left]
    have back : (x ++ Bytes.ofChar ']' :: Bytes.ofChar ';' :: y).drop (n + 2) = y := by
      rw [size, List.drop_append, List.drop_eq_nil_of_le (by omega), Nat.add_sub_cancel_left]
      rfl
    refine ⟨?_, rfl, ?_⟩
    · dsimp only
      rw [front, back]
      rfl
    · simp [Slice.stop, size]

/-! ## Pairs -/

/-- The pair between the places `c` and `d` that an entry was cut from: a name, a `tag` and a
payload, with commas between them and the end of the pair behind them. -/
structure PairSpan (c : Cursor) (e : Entry) (tag : Bytes) (d : Cursor) : Prop where
  rest : c.rest = e.name.bytes ++ Bytes.ofChar ',' ::
    (tag ++ Bytes.ofChar ',' :: (e.value.bytes ++ (terminator ++ d.rest)))
  name : e.name.start = c.offset
  value : e.value.start = e.name.stop + 1 + tag.length + 1
  next : d.offset = e.value.stop + 2

/-- An entry that `valuePair` reads is cut from one pair, with the kind that the tag names. -/
theorem pairSpan_of_valuePair {c d : Cursor} {e : Entry} (read : valuePair c = .ok (e, d)) :
    ∃ tag, PairSpan c e tag d ∧ ∃ t, text "type tag" (Bytes.trimBlanks tag) = .ok t ∧
      (Decimal.natural? t.toList).bind Kind.ofTag? = some e.kind := by
  obtain ⟨⟨name, c₁⟩, atName, rest⟩ := Except.exists_of_bind_eq_ok read
  obtain ⟨⟨tag, c₂⟩, atTag, rest⟩ := Except.exists_of_bind_eq_ok rest
  obtain ⟨⟨value, c₃⟩, atEnd, rest⟩ := Except.exists_of_bind_eq_ok rest
  obtain ⟨t, trimmed, rest⟩ := Except.exists_of_bind_eq_ok rest
  obtain ⟨nameRest, nameStart, nameNext⟩ := Cursor.eq_of_upTo atName
  obtain ⟨tagRest, tagStart, tagNext⟩ := Cursor.eq_of_upTo atTag
  obtain ⟨valueRest, valueStart, valueNext⟩ := Cursor.eq_of_upToTerminator atEnd
  split at rest
  · cases rest
  · next kind named =>
    split at rest
    · cases rest
    · cases rest
      refine ⟨tag.bytes, ⟨?_, nameStart, ?_, valueNext⟩, t, trimmed, named⟩
      · rw [nameRest, tagRest, valueRest]
      · rw [valueStart, tagNext, Slice.stop, tagStart, nameNext]

namespace PairSpan

variable {c d : Cursor} {e : Entry} {tag : Bytes}

theorem meets_name (span : PairSpan c e tag d) : c.Meets e.name :=
  ⟨_, [], span.rest, span.name⟩

theorem meets_value (span : PairSpan c e tag d) : c.Meets e.value := by
  refine ⟨terminator ++ d.rest, e.name.bytes ++ Bytes.ofChar ',' :: (tag ++ [Bytes.ofChar ',']),
    ?_, ?_⟩
  · simp [span.rest]
  · simp only [span.value, Slice.stop, span.name, List.length_append, List.length_cons,
      List.length_nil]
    omega

theorem leadsTo (span : PairSpan c e tag d) : c.LeadsTo d := by
  refine ⟨e.name.bytes ++ Bytes.ofChar ',' ::
    (tag ++ Bytes.ofChar ',' :: (e.value.bytes ++ terminator)), ?_, ?_⟩
  · simp [span.rest]
  · simp only [span.next, Slice.stop, span.value, span.name, List.length_append, List.length_cons,
      terminator_eq, List.length_nil]
    omega

end PairSpan

theorem leadsTo_of_valuePair {c d : Cursor} {e : Entry} (read : valuePair c = .ok (e, d)) :
    c.LeadsTo d := by
  obtain ⟨tag, span, -⟩ := pairSpan_of_valuePair read
  exact span.leadsTo

theorem leadsTo_of_fieldPair {c d : Cursor} {field : FieldPair}
    (read : fieldPair c = .ok (field, d)) : c.LeadsTo d := by
  obtain ⟨⟨number, c₁⟩, atNumber, rest⟩ := Except.exists_of_bind_eq_ok read
  obtain ⟨⟨value, c₂⟩, atEnd, rest⟩ := Except.exists_of_bind_eq_ok rest
  obtain ⟨_, -, rest⟩ := Except.exists_of_bind_eq_ok rest
  obtain ⟨_, -, rest⟩ := Except.exists_of_bind_eq_ok rest
  cases rest
  obtain ⟨numberRest, numberStart, numberNext⟩ := Cursor.eq_of_upTo atNumber
  obtain ⟨valueRest, valueStart, valueNext⟩ := Cursor.eq_of_upToTerminator atEnd
  refine ⟨number.bytes ++ Bytes.ofChar ',' :: (value.bytes ++ terminator), ?_, ?_⟩
  · simp [numberRest, valueRest]
  · simp only [valueNext, Slice.stop, valueStart, numberNext, numberStart, List.length_append,
      List.length_cons, terminator_eq, List.length_nil]
    omega

/-! ## Blocks -/

theorem leadsTo_of_openBlock {c d : Cursor} (opened : openBlock c = .ok d) : c.LeadsTo d := by
  obtain ⟨c₁, equals, rest⟩ := Except.exists_of_bind_eq_ok opened
  obtain ⟨c₂, brace, rest⟩ := Except.exists_of_bind_eq_ok rest
  cases rest
  have toEquals := (Cursor.leadsTo_skipBlanks c).trans (Cursor.leadsTo_of_expect equals)
  have toBrace := (Cursor.leadsTo_skipBlanks c₁).trans (Cursor.leadsTo_of_expect brace)
  exact (toEquals.trans toBrace).trans (Cursor.leadsTo_eatOptional _ c₂)

theorem leadsTo_closeBlock (c : Cursor) : c.LeadsTo (closeBlock c) :=
  ((Cursor.leadsTo_eatOptional _ c).trans (Cursor.leadsTo_skipBlanks _)).trans
    (Cursor.leadsTo_eatOptional _ _)

namespace PairReader

variable {α : Type}

/-- A pair that `reader` reads behind an opening bracket somewhere ahead of `c`, up to the place
`next`. -/
def Finds (reader : PairReader α) (c : Cursor) (a : α) (next : Cursor) : Prop :=
  ∃ offset rest, c.LeadsTo ⟨offset, Bytes.ofChar '[' :: rest⟩ ∧
    reader.read ⟨offset + 1, rest⟩ = .ok (a, next)

/-- Pairs that are read one after the other, from one place to another. -/
inductive Run (reader : PairReader α) : Cursor → List α → Cursor → Prop where
  /-- No pair is left. -/
  | done {c last : Cursor} (leads : c.LeadsTo last) : Run reader c [] last
  /-- A pair is ahead, `first`, and the others are behind it. -/
  | pair {c next last : Cursor} {a : α} {as : List α} (first : reader.Finds c a next)
    (others : Run reader next as last) : Run reader c (a :: as) last

variable {reader : PairReader α} {kind : Block} {c d next last : Cursor} {a : α} {as : List α}

theorem Finds.behind (leads : c.LeadsTo d) (finds : reader.Finds d a next) :
    reader.Finds c a next := by
  obtain ⟨offset, rest, further, read⟩ := finds
  exact ⟨offset, rest, leads.trans further, read⟩

theorem Run.behind (leads : c.LeadsTo d) (run : reader.Run d as last) : reader.Run c as last := by
  cases run with
  | done further => exact .done (leads.trans further)
  | pair first others => exact .pair (first.behind leads) others

/-- The pairs of a block are read one after the other, as a `Run` of the reader. -/
theorem run_of_pairs (read : pairs reader kind c = .ok (as, last)) : reader.Run c as last := by
  -- what is looked at is the first byte that is not white space
  have visibly {c : Cursor} {b : UInt8} {rest : Bytes} (shape : c.skipBlanks.rest = b :: rest) :
      c.LeadsTo ⟨c.skipBlanks.offset, b :: rest⟩ := by
    rw [← shape]
    exact Cursor.leadsTo_skipBlanks c
  fun_induction pairs reader kind c generalizing as last with
  | case1 => cases read
  | case2 => cases read
  | case3 => cases read
  | case4 c rest a next first others end_ following visible ih =>
    cases read
    exact .pair ⟨_, rest, visibly visible, first⟩ (ih following)
  | case5 c rest visible =>
    cases read
    have brace := (visibly visible).trans (Cursor.leadsTo_tail _ _ _)
    exact .done (brace.trans (leadsTo_closeBlock _))
  | case6 => cases read

theorem run_of_block (read : block reader kind c = .ok (as, last)) : reader.Run c as last := by
  obtain ⟨d, opened, inside⟩ := Except.exists_of_bind_eq_ok read
  exact (run_of_pairs inside).behind (leadsTo_of_openBlock opened)

section Forward

variable (forward : ∀ {c d a}, reader.read c = .ok (a, d) → c.LeadsTo d)

include forward

theorem Finds.leadsTo (finds : reader.Finds c a next) : c.LeadsTo next := by
  obtain ⟨offset, rest, leads, read⟩ := finds
  exact (leads.trans (Cursor.leadsTo_tail _ _ _)).trans (forward read)

theorem Run.leadsTo (run : reader.Run c as last) : c.LeadsTo last := by
  induction run with
  | done leads => exact leads
  | pair first _ ih => exact (first.leadsTo forward).trans ih

/-- Every pair of a `Run` is ahead of where the run starts. -/
theorem Run.exists_finds (run : reader.Run c as last) :
    ∀ a ∈ as, ∃ next, reader.Finds c a next := by
  induction run with
  | done _ => simp
  | pair first _ ih =>
    intro a mem
    rcases List.mem_cons.1 mem with rfl | later
    · exact ⟨_, first⟩
    · obtain ⟨next, finds⟩ := ih a later
      exact ⟨next, finds.behind (first.leadsTo forward)⟩

/-- Of two pairs of a `Run` the second is ahead of where the first ends. -/
theorem Run.pairwise (run : reader.Run c as last) :
    as.Pairwise fun a b => ∃ here there next, reader.Finds here a there ∧
      reader.Finds there b next := by
  induction run with
  | done _ => exact .nil
  | pair first others ih =>
    apply List.Pairwise.cons
    · intro b mem
      obtain ⟨next, finds⟩ := others.exists_finds forward b mem
      exact ⟨_, _, next, first, finds⟩
    · exact ih

end Forward

end PairReader

/-! ## Inputs -/

variable {s : Bytes} {found : Scan}

theorem leadsTo_of_headerPart {header? : Option Header} {c : Cursor}
    (read : headerPart s = .ok (header?, c)) : Cursor.LeadsTo ⟨0, s⟩ c := by
  have blanks := Cursor.leadsTo_skipBlanks ⟨0, s⟩
  rw [headerPart] at read
  dsimp only at read
  split at read
  · cases read
    exact blanks
  · next d mark =>
    obtain ⟨⟨fields, c₁⟩, inside, rest⟩ := Except.exists_of_bind_eq_ok read
    cases rest
    have marked := blanks.trans (Cursor.leadsTo_of_eatAll? mark)
    have block := (PairReader.run_of_block inside).leadsTo leadsTo_of_fieldPair
    exact (marked.trans block).trans (Cursor.leadsTo_skipBlanks c₁)

/-- The entries of a `scan` are read one after the other. -/
theorem exists_run_of_scan (scanned : scan s = .ok found) :
    ∃ last, valueReader.Run ⟨0, s⟩ found.entries last := by
  obtain ⟨_, c, header, none | ⟨d, last, mark, inside⟩⟩ := exists_block_of_scan scanned
  · rw [none]
    exact ⟨_, .done (.refl _)⟩
  · have start := (leadsTo_of_headerPart header).trans (Cursor.leadsTo_of_eatAll? mark)
    exact ⟨last, (PairReader.run_of_block inside).behind start⟩

/-- Every entry that a `scan` finds is cut from a pair of the input. -/
theorem exists_finds_of_scan (scanned : scan s = .ok found) :
    ∀ e ∈ found.entries, ∃ next, valueReader.Finds ⟨0, s⟩ e next := by
  obtain ⟨last, run⟩ := exists_run_of_scan scanned
  exact run.exists_finds leadsTo_of_valuePair

/-- Names and payloads `LiesIn` the input where a `scan` says that they do. -/
theorem liesIn_of_scan (scanned : scan s = .ok found) :
    ∀ e ∈ found.entries, e.name.LiesIn s ∧ e.value.LiesIn s := by
  intro e mem
  obtain ⟨next, offset, rest, bracket, read⟩ := exists_finds_of_scan scanned e mem
  obtain ⟨tag, span, -⟩ := pairSpan_of_valuePair read
  have leads := bracket.trans (Cursor.leadsTo_tail _ _ _)
  exact ⟨(leads.meets span.meets_name).liesIn, (leads.meets span.meets_value).liesIn⟩

end Delimited

end Parcel
