import Parcel.Proofs.Delimited.Accepted
import Parcel.Proofs.Delimited.Writing
import Parcel.Proofs.Header

/-!
# What a scan finds

A scan cuts names, header values and payloads out of its input at the next delimiter. So whatever
the input is, a name has no comma in it, no payload and no header value contains the end of a pair,
and a pair without a name is refused. Nothing is said of brackets in a name: they are no delimiters
to the scan.

## Main definitions

* `Delimited.Entry.Sound` — what holds of every entry
* `Delimited.Carries` — no value of a header contains the end of a pair

## Main results

* `Delimited.exists_read_of_pairs` — what a block holds was read pair by pair
* `Delimited.sound_of_scan`, `Delimited.carries_of_scan` — the entries and the header of a scan
-/

namespace Parcel.Delimited

/-- An entry has a name without a comma, and a payload without the end of a pair. -/
structure Entry.Sound (e : Entry) : Prop where
  named : e.name.bytes ≠ []
  comma : Bytes.ofChar ',' ∉ e.name.bytes
  ends : hasTerminator e.value.bytes = false

/-- No value of the header contains the end of a pair. -/
def Carries (h : Header) : Prop := ∀ field, hasTerminator (Utf8.encode (h.get field)) = false

/-! ## Cutting at delimiters -/

/-- Before the first end of a pair there is none: the last byte before it has nothing behind it. -/
theorem offsetOfPairFrom_take {first second : UInt8} {x : Bytes} {i n : Nat}
    (found : Bytes.offsetOfPairFrom first second i x = some n) :
    i ≤ n ∧ Bytes.offsetOfPairFrom first second i (x.take (n - i)) = none := by
  induction x generalizing i with
  | nil => cases found
  | cons b x ih =>
    rw [Bytes.offsetOfPairFrom] at found
    split_ifs at found with here
    · cases found
      simp [Bytes.offsetOfPairFrom]
    · obtain ⟨later, absent⟩ := ih found
      refine ⟨by omega, ?_⟩
      obtain ⟨k, rfl⟩ : ∃ k, n = i + 1 + k := ⟨n - (i + 1), by omega⟩
      have size : i + 1 + k - i = k + 1 := by omega
      have rest : i + 1 + k - (i + 1) = k := by omega
      rw [rest] at absent
      have not_here : ¬(b == first && (x.take k).head? == some second) = true := by
        intro pair
        apply here
        rw [Bool.and_eq_true] at pair ⊢
        refine ⟨pair.1, ?_⟩
        -- a head that is left after taking some is the head that was there before
        cases k with
        | zero => simp at pair
        | succ k => simpa [List.head?_take] using pair.2
      rw [size, List.take_succ_cons, Bytes.offsetOfPairFrom, if_neg not_here, absent]

namespace Cursor

variable {c d : Cursor} {slice : Slice}

theorem hasTerminator_of_upToTerminator (cut : c.upToTerminator = .ok (slice, d)) :
    hasTerminator slice.bytes = false := by
  rw [upToTerminator] at cut
  split at cut
  · cases cut
  · next n found =>
    cases cut
    have absent := (offsetOfPairFrom_take found).2
    rw [Nat.sub_zero] at absent
    simp [hasTerminator, Bytes.offsetOfPair?, absent]

theorem not_mem_of_upTo {char : Char} (cut : c.upTo char = .ok (slice, d)) :
    Bytes.ofChar char ∉ slice.bytes := by
  rw [upTo] at cut
  split at cut
  · cases cut
  · cases cut
    intro mem
    have passed := List.all_eq_true.1 List.all_takeWhile _ mem
    simp at passed

end Cursor

/-! ## Pairs -/

theorem sound_of_valuePair {e : Entry} {c d : Cursor} (read : valuePair c = .ok (e, d)) :
    e.Sound := by
  obtain ⟨⟨name, c₁⟩, atComma, rest⟩ := Except.exists_of_bind_eq_ok read
  obtain ⟨⟨tag, c₂⟩, -, rest⟩ := Except.exists_of_bind_eq_ok rest
  obtain ⟨⟨value, c₃⟩, atEnd, rest⟩ := Except.exists_of_bind_eq_ok rest
  obtain ⟨_, -, rest⟩ := Except.exists_of_bind_eq_ok rest
  split at rest
  · cases rest
  · split at rest
    · cases rest
    · next named =>
      cases rest
      have nonempty : name.bytes ≠ [] := by simpa using named
      exact ⟨nonempty, Cursor.not_mem_of_upTo atComma,
        Cursor.hasTerminator_of_upToTerminator atEnd⟩

theorem hasTerminator_of_fieldPair {field : Option Field} {value : String} {c d : Cursor}
    (read : fieldPair c = .ok ((field, value), d)) : hasTerminator (Utf8.encode value) = false := by
  obtain ⟨⟨number, c₁⟩, -, rest⟩ := Except.exists_of_bind_eq_ok read
  obtain ⟨⟨payload, c₂⟩, atEnd, rest⟩ := Except.exists_of_bind_eq_ok rest
  obtain ⟨_, -, rest⟩ := Except.exists_of_bind_eq_ok rest
  obtain ⟨_, decoded, rest⟩ := Except.exists_of_bind_eq_ok rest
  cases rest
  rw [← Utf8.eq_encode_of_decode (Except.eq_ok_of_mapError_eq_ok decoded)]
  exact Cursor.hasTerminator_of_upToTerminator atEnd

/-- What a block holds was read pair by pair, by the `reader` of the block. -/
theorem exists_read_of_pairs {α : Type} {reader : PairReader α} {kind : Block} {c last : Cursor}
    {as : List α} (read : pairs reader kind c = .ok (as, last)) :
    ∀ a ∈ as, ∃ here next, reader.read here = .ok (a, next) := by
  fun_induction pairs reader kind c generalizing as last with
  | case1 => cases read
  | case2 => cases read
  | case3 => cases read
  | case4 c rest a next first others end_ following visible ih =>
    cases read
    intro x mem
    rcases List.mem_cons.1 mem with rfl | later
    · exact ⟨_, _, first⟩
    · exact ih following x later
  | case5 =>
    cases read
    exact nofun
  | case6 => cases read

theorem exists_read_of_block {α : Type} {reader : PairReader α} {kind : Block} {c last : Cursor}
    {as : List α} (read : block reader kind c = .ok (as, last)) :
    ∀ a ∈ as, ∃ here next, reader.read here = .ok (a, next) := by
  obtain ⟨_, -, inside⟩ := Except.exists_of_bind_eq_ok read
  exact exists_read_of_pairs inside

/-! ## Headers -/

theorem carries_initial : Carries {} := by
  intro field
  cases field <;> decide

theorem Carries.set {h : Header} (carries : Carries h) (field : Field) {value : String}
    (ends : hasTerminator (Utf8.encode value) = false) : Carries (h.set field value) := by
  intro other
  rw [Header.get_set]
  split
  · exact ends
  · exact carries other

theorem carries_headerOf {fields : List FieldPair}
    (ends : ∀ p ∈ fields, hasTerminator (Utf8.encode p.2) = false) :
    Carries (headerOf fields) := by
  -- the header is set field by field, from one that carries nothing yet
  suffices every : ∀ h, Carries h →
      Carries (h.setAll (fields.filterMap fun p => p.1.map (·, p.2))) from
    every {} carries_initial
  induction fields with
  | nil => exact fun h carries => carries
  | cons p fields ih =>
    obtain ⟨first, others⟩ := List.forall_mem_cons.1 ends
    obtain ⟨field, value⟩ := p
    intro h carries
    cases field with
    | none => exact ih others h carries
    | some field => exact ih others (h.set field value) (carries.set field first)

theorem carries_of_headerPart {s : Bytes} {header : Header} {c : Cursor}
    (read : headerPart s = .ok (some header, c)) : Carries header := by
  rw [headerPart] at read
  dsimp only at read
  split at read
  · cases read
  · obtain ⟨⟨fields, _⟩, inside, rest⟩ := Except.exists_of_bind_eq_ok read
    cases rest
    refine carries_headerOf fun p mem => ?_
    obtain ⟨here, next, pair⟩ := exists_read_of_block inside p mem
    exact hasTerminator_of_fieldPair pair

/-! ## Scans -/

variable {s : Bytes} {found : Scan}

/-- The header that a scan finds can be written. -/
theorem carries_of_scan (scanned : scan s = .ok found) : Carries found.header := by
  obtain ⟨header?, c, first, header_eq, -⟩ := exists_headerPart_of_scan scanned
  rw [header_eq]
  cases header? with
  | none => exact carries_initial
  | some header => exact carries_of_headerPart first

/-- Where the entries of a `scan` come from: the data block, which stands behind what was read of
the header, or there are none. -/
theorem exists_block_of_scan (scanned : scan s = .ok found) :
    ∃ header? c, headerPart s = .ok (header?, c) ∧ (found.entries = [] ∨
      ∃ d last, c.eatAll? Format.dataMark = some d ∧
        block valueReader .data d = .ok (found.entries, last)) := by
  rw [scan] at scanned
  obtain ⟨⟨header?, c⟩, first, rest⟩ := Except.exists_of_bind_eq_ok scanned
  refine ⟨header?, c, first, ?_⟩
  dsimp only at rest
  cases mark : c.eatAll? Format.dataMark with
  | some d =>
    rw [mark] at rest
    obtain ⟨⟨entries, last⟩, inside, finish⟩ := Except.exists_of_bind_eq_ok rest
    change (if last.skipBlanks.rest.isEmpty then _ else _) = _ at finish
    split at finish
    · cases finish
      exact .inr ⟨d, last, rfl, inside⟩
    · cases finish
  | none =>
    rw [mark] at rest
    cases header? with
    | none => cases rest
    | some header =>
      change (if c.rest.isEmpty then _ else _) = _ at rest
      split at rest
      · cases rest
        exact .inl rfl
      · cases rest

/-- Every entry that a `scan` finds is `Sound`. -/
theorem sound_of_scan (scanned : scan s = .ok found) : ∀ e ∈ found.entries, e.Sound := by
  obtain ⟨_, c, -, none | ⟨d, last, -, inside⟩⟩ := exists_block_of_scan scanned
  · rw [none]
    exact nofun
  · intro e mem
    obtain ⟨here, next, pair⟩ := exists_read_of_block inside e mem
    exact sound_of_valuePair pair

end Parcel.Delimited
