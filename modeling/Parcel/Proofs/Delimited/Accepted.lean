import Parcel.Codec
import Parcel.Proofs.Outcome

/-!
# What an accepted text is

An input that can be scanned starts, after white space, with one of the two marks, so it is
recognised as text; and the header block that the scan reads first is all that reading the header
alone looks at. An entry that can be read has the kind that its tag names.

## Main results

* `Delimited.scanHeader_of_scan` — the header alone is the header of the scan
* `Delimited.detect?_of_scan` — an input that can be scanned is recognised
* `Delimited.exists_scan_of_decode` — decoding a document is scanning it and reading its entries
* `Delimited.kind_of_decodeWithin` — a value has the kind that it is read as
-/

namespace Parcel.Delimited

variable {s : Bytes} {found : Scan}

/-- The parts of a `scan` that succeeds: what stands in front of the data block, and the mark that
opens the data block unless there was a header. -/
theorem exists_headerPart_of_scan (scanned : scan s = .ok found) :
    ∃ header? c, headerPart s = .ok (header?, c) ∧ found.header = header?.getD {} ∧
      (header? = none → (c.eatAll? Format.dataMark).isSome) := by
  rw [scan] at scanned
  -- a header block may stand alone; without one there has to be a data block
  obtain ⟨⟨header?, c⟩, first, rest⟩ := Except.exists_of_bind_eq_ok scanned
  refine ⟨header?, c, first, ?_⟩
  dsimp only at rest
  cases mark : c.eatAll? Format.dataMark with
  | some d =>
    rw [mark] at rest
    obtain ⟨⟨entries, last⟩, -, finish⟩ := Except.exists_of_bind_eq_ok rest
    change (if last.skipBlanks.rest.isEmpty then _ else _) = _ at finish
    split at finish
    · cases finish
      exact ⟨rfl, fun _ => rfl⟩
    · cases finish
  | none =>
    rw [mark] at rest
    cases header? with
    | none => cases rest
    | some header =>
      change (if c.rest.isEmpty then _ else _) = _ at rest
      split at rest
      · cases rest
        exact ⟨rfl, nofun⟩
      · cases rest

theorem isPrefixOf_of_isPrefixOf? {x y : Bytes} (isSome : (x.isPrefixOf? y).isSome) :
    x.isPrefixOf y := by
  induction x generalizing y with
  | nil => cases y <;> rfl
  | cons a x ih =>
    cases y with
    | nil => cases isSome
    | cons b y =>
      change (if a == b then x.isPrefixOf? y else none).isSome at isSome
      split at isSome
      · next same =>
        rw [List.isPrefixOf, same, Bool.true_and]
        exact ih isSome
      · cases isSome

theorem isPrefixOf_of_eatAll? {mark : Bytes} {c : Cursor} (isSome : (c.eatAll? mark).isSome) :
    mark.isPrefixOf c.rest := by
  rw [Cursor.eatAll?, Option.isSome_map] at isSome
  exact isPrefixOf_of_isPrefixOf? isSome

/-- What `scanHeader` reads is the header of the `scan`. -/
theorem scanHeader_of_scan (scanned : scan s = .ok found) : scanHeader s = .ok found.header := by
  obtain ⟨header?, c, first, header_eq, mark⟩ := exists_headerPart_of_scan scanned
  rw [scanHeader, first, header_eq]
  cases header? with
  | some header => rfl
  | none =>
    change (if Format.dataMark.isPrefixOf c.rest then _ else _) = _
    rw [if_pos (isPrefixOf_of_eatAll? (mark rfl))]
    rfl

theorem rest_skipBlanksFrom (o : Nat) (s : Bytes) :
    (Cursor.skipBlanksFrom o s).rest = Bytes.skipBlanks s := by
  induction s generalizing o with
  | nil => rfl
  | cons b s ih =>
    rw [Cursor.skipBlanksFrom, Bytes.skipBlanks]
    split
    · next blank => rw [ih, List.dropWhile_cons_of_pos blank, Bytes.skipBlanks]
    · next visible => rw [List.dropWhile_cons_of_neg visible]

theorem toNat_lt_of_isBlank {b : UInt8} (blank : Bytes.isBlank b) : b.toNat < 0x80 := by
  simp only [Bytes.isBlank, Bool.or_eq_true, beq_iff_eq] at blank
  rcases blank with (((rfl | rfl) | rfl) | rfl) | rfl <;> decide

/-- The first byte of a map lies outside ASCII. -/
theorem isMapMarker_of_lt {b : UInt8} (small : b.toNat < 0x80) : Format.isMapMarker b = false := by
  have below (n : UInt8) (high : 0x80 ≤ n.toNat) : b < n := by
    rw [UInt8.lt_iff_toNat_lt]
    omega
  have ne (n : UInt8) (high : 0x80 ≤ n.toNat) : (b == n) = false := by
    rw [beq_eq_false_iff_ne]
    rintro rfl
    omega
  rw [Format.isMapMarker, decide_eq_false (UInt8.not_le.2 (below 0x80 (by decide))),
    ne 0xDE (by decide), ne 0xDF (by decide)]
  rfl

/-- Both marks start with the same character. -/
theorem exists_cons_of_isPrefixOf {t : Bytes}
    (mark : Format.headerMark.isPrefixOf t ∨ Format.dataMark.isPrefixOf t) :
    ∃ rest, t = 0x40 :: rest := by
  cases t with
  | nil => rcases mark with mark | mark <;> cases mark
  | cons b t =>
    have first : b = 0x40 := by
      rcases mark with mark | mark
      · exact (beq_iff_eq.1 (Bool.and_eq_true_iff.1 mark).1).symm
      · exact (beq_iff_eq.1 (Bool.and_eq_true_iff.1 mark).1).symm
    exact ⟨t, by rw [first]⟩

/-- No map starts with white space, so the first byte after white space decides. -/
theorem detect?_eq_detectTextual? {b : UInt8} {rest : Bytes}
    (noMap : Format.isMapMarker b = false) (starts : Bytes.skipBlanks s = b :: rest) :
    Format.detect? s = Format.detectTextual? (b :: rest) := by
  cases s with
  | nil => cases starts
  | cons a s =>
    have first : Format.isMapMarker a = false := by
      by_cases blank : Bytes.isBlank a
      · exact isMapMarker_of_lt (toNat_lt_of_isBlank blank)
      · rw [Bytes.skipBlanks, List.dropWhile_cons_of_neg blank] at starts
        rw [(List.cons.inj starts).1, noMap]
    rw [Format.detect?, first, starts]
    rfl

/-- An input that starts with one of the marks after white space is detected as `text`. -/
theorem detect?_of_isPrefixOf
    (mark : Format.headerMark.isPrefixOf (Bytes.skipBlanks s) ∨
      Format.dataMark.isPrefixOf (Bytes.skipBlanks s)) :
    Format.detect? s = some .text := by
  obtain ⟨rest, rest_eq⟩ := exists_cons_of_isPrefixOf mark
  rw [rest_eq] at mark
  rw [detect?_eq_detectTextual? (by decide) rest_eq, Format.detectTextual?, if_neg (by decide),
    if_neg (by decide), if_pos mark]

theorem detect?_of_scan (scanned : scan s = .ok found) : Format.detect? s = some .text := by
  obtain ⟨header?, c, first, -, mark⟩ := exists_headerPart_of_scan scanned
  have start : (Cursor.skipBlanks ⟨0, s⟩).rest = Bytes.skipBlanks s := rest_skipBlanksFrom 0 s
  refine detect?_of_isPrefixOf ?_
  rw [← start]
  cases headed : (Cursor.skipBlanks ⟨0, s⟩).eatAll? Format.headerMark with
  | some d =>
    left
    exact isPrefixOf_of_eatAll? (by rw [headed]; rfl)
  | none =>
    right
    rw [headerPart] at first
    dsimp only at first
    rw [headed] at first
    cases first
    exact isPrefixOf_of_eatAll? (mark rfl)

/-- Decoding a document is `scan` followed by `materialize` on its entries. -/
theorem exists_scan_of_decode {d : Document} (decoded : decode s = .ok d) :
    ∃ entries, scan s = .ok ⟨d.header, entries⟩ ∧
      entries.mapM (fun e => e.materialize 0) = .ok d.values := by
  rw [decode, decodeWith] at decoded
  obtain ⟨found, scanned, rest⟩ := Except.exists_of_bind_eq_ok decoded
  obtain ⟨values, read, finish⟩ := Except.exists_of_bind_eq_ok rest
  cases finish
  exact ⟨found.entries, scanned, read⟩

/-! ## Values -/

/-- A literal that is read is read as a value. -/
theorem exists_of_parsed {kind : Kind} {raw : Bytes} {read : List Char → Option Value}
    {v : Value} (parsed : parsed kind raw read = .ok v) : ∃ cs, read cs = some v := by
  obtain ⟨cs, -, rest⟩ := Except.exists_of_bind_eq_ok parsed
  refine ⟨cs, ?_⟩
  cases found : read cs with
  | none => rw [found] at rest; cases rest
  | some w => rw [found] at rest; cases rest; rfl

theorem kind_of_integerLiteral? {k : IntegerKind} {cs : List Char} {i : Integer}
    (read : integerLiteral? k cs = some i) : i.kind = k := by
  obtain ⟨number, -, held⟩ := Option.bind_eq_some_iff.mp read
  unfold Integer.ofInt? at held
  split at held
  · cases held; rfl
  · cases held

/-- A value has the kind that it is read as. -/
theorem kind_of_decodeWithin {levels : Nat} {kind : Kind} {raw : Bytes} {v : Value}
    (decoded : decodeWithin levels kind raw = .ok v) : v.kind = kind := by
  cases levels with
  | zero => cases decoded
  | succ levels =>
    cases kind with
    | null => cases decoded; rfl
    | bool =>
      obtain ⟨cs, -, rfl⟩ := Except.exists_of_map_eq_ok decoded
      rfl
    | integer k =>
      obtain ⟨cs, read⟩ := exists_of_parsed decoded
      obtain ⟨i, found, rfl⟩ := Option.map_eq_some_iff.mp read
      exact congrArg Kind.integer (kind_of_integerLiteral? found)
    | float =>
      obtain ⟨cs, read⟩ := exists_of_parsed decoded
      obtain ⟨bits, -, rfl⟩ := Option.map_eq_some_iff.mp read
      rfl
    | double =>
      obtain ⟨cs, read⟩ := exists_of_parsed decoded
      obtain ⟨bits, -, rfl⟩ := Option.map_eq_some_iff.mp read
      rfl
    | string =>
      obtain ⟨s, -, rfl⟩ := Except.exists_of_map_eq_ok decoded
      rfl
    | bytes => cases decoded; rfl
    | container =>
      obtain ⟨inner, -, rest⟩ := Except.exists_of_bind_eq_ok decoded
      obtain ⟨d, -, finish⟩ := Except.exists_of_bind_eq_ok rest
      cases finish
      rfl
    | array =>
      obtain ⟨inner, -, rest⟩ := Except.exists_of_bind_eq_ok decoded
      obtain ⟨found, -, rest⟩ := Except.exists_of_bind_eq_ok rest
      obtain ⟨items, -, finish⟩ := Except.exists_of_bind_eq_ok rest
      cases finish
      rfl

end Parcel.Delimited
