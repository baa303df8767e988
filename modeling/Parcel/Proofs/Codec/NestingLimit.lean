import Parcel.Proofs.Delimited.Places
import Parcel.Proofs.Delimited.Reencoding

/-!
# How deeply what is read can be nested

The readers of JSON, XML and MessagePack count documents, and never go further below the first one
than the limit says. The reader of the text format counts values. A value may sit as deep as the
limit, and when it is a container the document in it is one level below: nothing looks at that
document as long as it has no values. So what is read can hold a document one level too deep, and it
is always one without values. Levels are paid for with length, since a nested text takes two digits
for every byte. No text that fits in memory is deep enough to get there, but the reader of a single
value is told how deep it starts.

## Main results

* `Json.nestsWithin_of_valueOf?`, `Xml.nestsWithin_of_valueOf`,
  `MessagePack.nestsWithin_of_within` — what a reader has gone down leaves fewer levels
* `Delimited.two_pow_le_length_of_decodeWithin` — every level doubles the length of a text
* `Codec.level_le_of_decode` — the levels of nested documents, in every format
* `Codec.exists_nestsAt_emptyPayload` — a value that goes one level too deep
-/

namespace Parcel

open Document (depthLimit)

/-! ## JSON -/

namespace Json

/-- A number is an integer or a double. -/
theorem flat_of_value? {n : Numeral} {v : Value} (read : n.value? = some v) :
    v.kind ≠ .container ∧ v.kind ≠ .array := by
  rw [Numeral.value?] at read
  split at read
  · cases read
    simp [Value.kind]
  · obtain ⟨m, -, same⟩ := Option.map_eq_some_iff.1 read
    cases same
    simp [Value.kind]

mutual

/-- Every container takes one of the levels that `depth` leaves, as `NestsWithin` counts them. -/
theorem nestsWithin_of_valueOf? : (t : Tree) → ∀ {room depth : Nat} {v : Value},
    valueOf? room depth t = some v → v.NestsWithin (depthLimit - depth)
  | .null, _, _, v, read => by
    cases read
    exact Value.nestsWithin_of_flat (by simp [Value.kind])
  | .bool _, _, _, v, read => by
    cases read
    exact Value.nestsWithin_of_flat (by simp [Value.kind])
  | .number n, _, _, v, read => Value.nestsWithin_of_flat (flat_of_value? read)
  | .string _, _, _, v, read => by
    obtain ⟨t, -, same⟩ := Option.map_eq_some_iff.1 read
    cases same
    exact Value.nestsWithin_of_flat (by simp [Value.kind])
  | .array items, room, depth, v, read => by
    rw [valueOf?] at read
    split at read
    · cases read
    · obtain ⟨vs, inside, same⟩ := Option.map_eq_some_iff.1 read
      cases same
      exact Value.nestsWithin_array_iff.2 (nestsWithin_of_itemsOf? items inside)
  | .object members, room, depth, v, read => by
    rw [valueOf?] at read
    split at read
    · cases read
    · next shallow =>
      obtain ⟨d, inside, same⟩ := Option.map_eq_some_iff.1 read
      cases same
      have left : depthLimit - depth - 1 = depthLimit - (depth + 1) := by omega
      refine Value.nestsWithin_container_iff.2 ⟨by omega, ?_⟩
      rw [left]
      exact nestsWithin_of_documentOf? members inside nofun

theorem nestsWithin_of_itemsOf? : (items : List Tree) → ∀ {room depth : Nat} {vs : List Value},
    itemsOf? room depth items = some vs → ∀ v ∈ vs, v.NestsWithin (depthLimit - depth)
  | [], _, _, vs, read => by
    cases read
    nofun
  | item :: rest, room, depth, vs, read => by
    obtain ⟨v, first, read⟩ := Option.bind_eq_some_iff.1 read
    obtain ⟨others, later, finish⟩ := Option.bind_eq_some_iff.1 read
    cases finish
    exact List.forall_mem_cons.2
      ⟨nestsWithin_of_valueOf? item first, nestsWithin_of_itemsOf? rest later⟩

theorem nestsWithin_of_namedOf? : (members : List Member) → ∀ {room depth : Nat}
    {values : List Named}, namedOf? room depth members = some values →
      ∀ n ∈ values, n.value.NestsWithin (depthLimit - depth)
  | [], _, _, values, read => by
    cases read
    nofun
  | ⟨key, value⟩ :: rest, room, depth, values, read => by
    obtain ⟨name, -, read⟩ := Option.bind_eq_some_iff.1 read
    obtain ⟨v, first, read⟩ := Option.bind_eq_some_iff.1 read
    obtain ⟨others, later, finish⟩ := Option.bind_eq_some_iff.1 read
    cases finish
    exact List.forall_mem_cons.2
      ⟨nestsWithin_of_valueOf? value first, nestsWithin_of_namedOf? rest later⟩

theorem nestsWithin_of_valuesOf? : (t : Tree) → ∀ {room depth : Nat} {values : List Named},
    valuesOf? room depth t = some values → ∀ n ∈ values, n.value.NestsWithin (depthLimit - depth)
  | .object members, room, depth, values, read => by
    rw [valuesOf?] at read
    split at read
    · cases read
    · exact nestsWithin_of_namedOf? members read

/-- Of several value lists the last one counts, so what `d` holds need not stay. -/
theorem nestsWithin_of_documentOf? : (members : List Member) → ∀ {room depth : Nat}
    {d e : Document}, documentOf? room depth d members = some e →
      (∀ n ∈ d.values, n.value.NestsWithin (depthLimit - depth)) →
        ∀ n ∈ e.values, n.value.NestsWithin (depthLimit - depth)
  | [], _, _, d, e, read, before => by
    cases read
    exact before
  | ⟨key, value⟩ :: rest, room, depth, d, e, read, before => by
    obtain ⟨key, -, read⟩ := Option.bind_eq_some_iff.1 read
    split at read
    · obtain ⟨header, -, read⟩ := Option.bind_eq_some_iff.1 read
      exact nestsWithin_of_documentOf? rest read before
    · split at read
      · obtain ⟨values, first, read⟩ := Option.bind_eq_some_iff.1 read
        exact nestsWithin_of_documentOf? rest read (nestsWithin_of_valuesOf? value first)
      · exact nestsWithin_of_documentOf? rest read before

end

end Json

/-! ## XML -/

namespace Xml

mutual

/-- A document takes the level `depth` that it is read at. -/
theorem nestsWithin_of_documentOf : (e : Element) → ∀ {depth : Nat} {d : Document},
    documentOf depth e = .ok d →
      depth ≤ depthLimit ∧ ∀ n ∈ d.values, n.value.NestsWithin (depthLimit - depth)
  | ⟨name, text, children⟩, depth, d, read => by
    rw [documentOf] at read
    split at read
    · cases read
    · split at read
      · cases read
      · next shallow =>
        obtain ⟨values, inside, same⟩ := Except.exists_of_map_eq_ok read
        cases same
        exact ⟨Nat.le_of_not_lt shallow, nestsWithin_of_valuesAmong children inside⟩

theorem nestsWithin_of_valuesAmong : (es : List Element) → ∀ {depth : Nat} {values : List Named},
    valuesAmong depth es = .ok values → ∀ n ∈ values, n.value.NestsWithin (depthLimit - depth)
  | [], _, _, read => by
    cases read
    nofun
  | ⟨name, text, children⟩ :: rest, depth, values, read => by
    rw [valuesAmong] at read
    split at read
    · exact nestsWithin_of_namedOf children read
    · exact nestsWithin_of_valuesAmong rest read

theorem nestsWithin_of_namedOf : (es : List Element) → ∀ {depth : Nat} {values : List Named},
    namedOf depth es = .ok values → ∀ n ∈ values, n.value.NestsWithin (depthLimit - depth)
  | [], _, _, read => by
    cases read
    nofun
  | ⟨name, text, children⟩ :: rest, depth, values, read => by
    rw [namedOf] at read
    obtain ⟨v, first, read⟩ := Except.exists_of_bind_eq_ok read
    obtain ⟨others, later, finish⟩ := Except.exists_of_bind_eq_ok read
    cases finish
    exact List.forall_mem_cons.2
      ⟨nestsWithin_of_valueOf ⟨name, text, children⟩ first, nestsWithin_of_namedOf rest later⟩

/-- Containers and arrays both count as `valueOf` goes down, so no more levels than containers are
left. -/
theorem nestsWithin_of_valueOf : (e : Element) → ∀ {depth : Nat} {v : Value},
    valueOf depth e = .ok v → v.NestsWithin (depthLimit - depth)
  | ⟨_, text, []⟩, depth, v, read => by
    cases read
    exact Value.nestsWithin_of_flat (by simp [Value.kind])
  | ⟨_, _, [⟨name, text, children⟩]⟩, depth, v, read => by
    rw [valueOf] at read
    split at read
    · obtain ⟨d, inside, same⟩ := Except.exists_of_map_eq_ok read
      cases same
      obtain ⟨shallow, within⟩ := nestsWithin_of_documentOf ⟨name, text, children⟩ inside
      exact Value.nestsWithin_container_iff.2 ⟨by omega, within⟩
    · obtain ⟨item, inside, same⟩ := Except.exists_of_map_eq_ok read
      cases same
      have within := nestsWithin_of_valueOf ⟨name, text, children⟩ inside
      refine Value.nestsWithin_array_iff.2 (List.forall_mem_singleton.2 ?_)
      exact within.mono (by omega)
  | ⟨_, _, first :: second :: rest⟩, depth, v, read => by
    rw [valueOf] at read
    obtain ⟨v, here, read⟩ := Except.exists_of_bind_eq_ok read
    obtain ⟨w, next, read⟩ := Except.exists_of_bind_eq_ok read
    obtain ⟨vs, later, finish⟩ := Except.exists_of_bind_eq_ok read
    cases finish
    -- two children at least make an array, never a nested document
    have within : ∀ item ∈ v :: w :: vs, item.NestsWithin (depthLimit - (depth + 1)) :=
      List.forall_mem_cons.2 ⟨nestsWithin_of_valueOf first here,
        List.forall_mem_cons.2 ⟨nestsWithin_of_valueOf second next,
          nestsWithin_of_itemsOf rest later⟩⟩
    exact Value.nestsWithin_array_iff.2 fun item mem => (within item mem).mono (by omega)

theorem nestsWithin_of_itemsOf : (es : List Element) → ∀ {depth : Nat} {vs : List Value},
    itemsOf depth es = .ok vs → ∀ v ∈ vs, v.NestsWithin (depthLimit - depth)
  | [], _, _, read => by
    cases read
    nofun
  | e :: rest, depth, vs, read => by
    rw [itemsOf] at read
    obtain ⟨v, first, read⟩ := Except.exists_of_bind_eq_ok read
    obtain ⟨others, later, finish⟩ := Except.exists_of_bind_eq_ok read
    cases finish
    exact List.forall_mem_cons.2 ⟨nestsWithin_of_valueOf e first, nestsWithin_of_itemsOf rest later⟩

end

end Xml

/-! ## MessagePack -/

namespace MessagePack

/-- What the readers with this much allowance have gone down leaves fewer levels. -/
structure CountsLevels (fuel : Nat) : Prop where
  value : ∀ {room depth s v rest}, valueWithin fuel room depth s = .ok (v, rest) →
    v.NestsWithin (depthLimit - depth)
  items : ∀ {room depth n s vs rest}, itemsWithin fuel room depth n s = .ok (vs, rest) →
    ∀ v ∈ vs, v.NestsWithin (depthLimit - depth)
  named : ∀ {room depth n s values rest}, namedWithin fuel room depth n s = .ok (values, rest) →
    ∀ m ∈ values, m.value.NestsWithin (depthLimit - depth)
  document : ∀ {room depth d n s e rest}, documentWithin fuel room depth d n s = .ok (e, rest) →
    (∀ m ∈ d.values, m.value.NestsWithin (depthLimit - depth)) →
      ∀ m ∈ e.values, m.value.NestsWithin (depthLimit - depth)

variable {fuel room depth n : Nat} {s rest : Bytes}

theorem nestsWithin_of_valueWithin {v : Value} (counts : CountsLevels fuel)
    (read : valueWithin (fuel + 1) room depth s = .ok (v, rest)) :
    v.NestsWithin (depthLimit - depth) := by
  rw [valueWithin] at read
  obtain ⟨⟨head, s⟩, -, read⟩ := Except.exists_of_bind_eq_ok read
  cases head with
  | array n =>
    dsimp only at read
    split at read
    · cases read
    · obtain ⟨⟨items, s⟩, inside, finish⟩ := Except.exists_of_bind_eq_ok read
      cases finish
      exact Value.nestsWithin_array_iff.2 (counts.items inside)
  | map n =>
    dsimp only at read
    split at read
    · cases read
    · split at read
      · cases read
      · next shallow =>
        obtain ⟨⟨d, s⟩, inside, finish⟩ := Except.exists_of_bind_eq_ok read
        cases finish
        exact Value.nestsWithin_container_iff.2 ⟨by omega, counts.document inside nofun⟩
  | integer n natural =>
    obtain ⟨i, -, finish⟩ := Except.exists_of_bind_eq_ok read
    cases finish
    exact Value.nestsWithin_of_flat (by simp [Value.kind])
  | text n =>
    obtain ⟨⟨raw, s⟩, -, finish⟩ := Except.exists_of_bind_eq_ok read
    dsimp only at finish
    split at finish <;> cases finish <;> exact Value.nestsWithin_of_flat (by simp [Value.kind])
  | binary n =>
    obtain ⟨⟨raw, s⟩, -, finish⟩ := Except.exists_of_bind_eq_ok read
    cases finish
    exact Value.nestsWithin_of_flat (by simp [Value.kind])
  | _ => cases read <;> exact Value.nestsWithin_of_flat (by simp [Value.kind])

theorem nestsWithin_of_documentWithin {d e : Document} (counts : CountsLevels fuel)
    (read : documentWithin (fuel + 1) room depth d n s = .ok (e, rest))
    (before : ∀ m ∈ d.values, m.value.NestsWithin (depthLimit - depth)) :
    ∀ m ∈ e.values, m.value.NestsWithin (depthLimit - depth) := by
  cases n with
  | zero =>
    rw [documentWithin] at read
    cases read
    exact before
  | succ n =>
    rw [documentWithin] at read
    obtain ⟨⟨key, s⟩, -, read⟩ := Except.exists_of_bind_eq_ok read
    dsimp only at read
    split at read
    · obtain ⟨⟨header, s⟩, -, read⟩ := Except.exists_of_bind_eq_ok read
      exact counts.document read before
    · split at read
      · obtain ⟨⟨head, s⟩, -, read⟩ := Except.exists_of_bind_eq_ok read
        split at read
        · split at read
          · cases read
          · obtain ⟨⟨values, s⟩, inside, read⟩ := Except.exists_of_bind_eq_ok read
            exact counts.document read (counts.named inside)
        · cases read
      · obtain ⟨s, -, read⟩ := Except.exists_of_bind_eq_ok read
        exact counts.document read before

/-- The readers call each other with less allowance, so `CountsLevels` says all of them at once, by
induction on `fuel`. -/
theorem countsLevels (fuel : Nat) : CountsLevels fuel := by
  induction fuel with
  | zero =>
    refine ⟨?_, ?_, ?_, ?_⟩
    · intro room depth s v rest read
      rw [valueWithin] at read
      cases read
    · -- without allowance only the empty list is read, and it nests nothing
      intro room depth n s vs rest read
      cases n <;> rw [itemsWithin] at read <;> cases read
      nofun
    · intro room depth n s values rest read
      cases n <;> rw [namedWithin] at read <;> cases read
      nofun
    · intro room depth d n s e rest read before
      cases n <;> rw [documentWithin] at read <;> cases read
      exact before
  | succ fuel ih =>
    refine ⟨nestsWithin_of_valueWithin ih, ?_, ?_, nestsWithin_of_documentWithin ih⟩
    · intro room depth n s vs rest read
      cases n with
      | zero =>
        rw [itemsWithin] at read
        cases read
        nofun
      | succ n =>
        rw [itemsWithin] at read
        obtain ⟨⟨v, s⟩, first, read⟩ := Except.exists_of_bind_eq_ok read
        obtain ⟨⟨others, s⟩, later, finish⟩ := Except.exists_of_bind_eq_ok read
        cases finish
        exact List.forall_mem_cons.2 ⟨ih.value first, ih.items later⟩
    · intro room depth n s values rest read
      cases n with
      | zero =>
        rw [namedWithin] at read
        cases read
        nofun
      | succ n =>
        rw [namedWithin] at read
        obtain ⟨⟨name, s⟩, -, read⟩ := Except.exists_of_bind_eq_ok read
        obtain ⟨⟨v, s⟩, first, read⟩ := Except.exists_of_bind_eq_ok read
        obtain ⟨⟨others, s⟩, later, finish⟩ := Except.exists_of_bind_eq_ok read
        cases finish
        exact List.forall_mem_cons.2 ⟨ih.value first, ih.named later⟩

end MessagePack

/-! ## The text format -/

namespace Delimited

/-- What stands inside `depth` containers and arrays leaves that many levels fewer. -/
theorem level_le_of_decodeValue {kind : Kind} {raw : Bytes} {depth level : Nat} {v : Value}
    {e : Document} (decoded : decodeValue kind raw depth = .ok v) (nests : v.NestsAt level e) :
    depth + level ≤ depthLimit ∨ depth + level = depthLimit + 1 ∧ e.values = [] := by
  obtain ⟨le, below⟩ := (within_of_decodeWithin decoded).level_le nests
  have positive := nests.pos
  rw [levelsAt] at le below
  -- the reader counts levels where it reads a value, so only a document with values is counted
  by_cases bare : e.values = []
  · rcases Nat.lt_or_ge depthLimit (depth + level) with far | near
    · exact .inr ⟨by omega, bare⟩
    · exact .inl near
  · have := below bare
    exact .inl (by omega)

theorem level_le_of_decode_text {s : Bytes} {d e : Document} {level : Nat}
    (decoded : decode s = .ok d) (nests : d.NestsAt level e) :
    level ≤ depthLimit ∨ level = depthLimit + 1 ∧ e.values = [] := by
  obtain ⟨found, -, -, related⟩ := exists_of_decodeWith decoded
  obtain ⟨n, mem, inside⟩ := nests
  obtain ⟨entry, -, -, valued⟩ := exists_mem_of_forall₂ related n mem
  have bounds : 0 + level ≤ depthLimit ∨ 0 + level = depthLimit + 1 ∧ e.values = [] :=
    level_le_of_decodeValue valued inside
  rwa [Nat.zero_add] at bounds

theorem length_pos_of_scan {s : Bytes} {found : Scan} (scanned : scan s = .ok found) :
    0 < s.length := by
  have recognised := detect?_of_scan scanned
  cases s with
  | nil => cases recognised
  | cons b s => exact Nat.succ_pos _

/-- A payload lies in the text that `scan` has cut it from. -/
theorem length_le_of_scan {s : Bytes} {found : Scan} (scanned : scan s = .ok found) :
    ∀ e ∈ found.entries, e.value.bytes.length ≤ s.length := by
  intro e mem
  have within := (liesIn_of_scan scanned e mem).2.stop_le
  rw [Slice.stop] at within
  omega

/-- A nested text takes two digits for every byte, so each level at least doubles the length of the
payload `raw` that encloses it. -/
theorem two_pow_le_length_of_decodeWithin {levels level : Nat} {kind : Kind} {raw : Bytes}
    {v : Value} {e : Document} (decoded : decodeWithin levels kind raw = .ok v)
    (nests : v.NestsAt level e) : 2 ^ level ≤ raw.length := by
  induction nests generalizing levels kind raw with
  | here d =>
    obtain rfl : kind = .container := (kind_of_decodeWithin decoded).symm
    obtain ⟨rest, inner, d, -, ⟨rfl⟩, doubled, read⟩ := exists_of_decodeWithin_container decoded
    obtain ⟨found, scanned, -, -⟩ := exists_of_decodeWith read
    have visible := length_pos_of_scan scanned
    omega
  | container mem _ ih =>
    obtain rfl : kind = .container := (kind_of_decodeWithin decoded).symm
    obtain ⟨rest, inner, d, -, ⟨rfl⟩, doubled, read⟩ := exists_of_decodeWithin_container decoded
    obtain ⟨found, scanned, -, related⟩ := exists_of_decodeWith read
    obtain ⟨entry, member, -, valued⟩ := exists_mem_of_forall₂ related _ mem
    have inside := ih valued
    have shorter := length_le_of_scan scanned entry member
    rw [Nat.pow_succ]
    omega
  -- an array is written in digits as well, but is no level of its own
  | array mem _ ih =>
    obtain rfl : kind = .array := (kind_of_decodeWithin decoded).symm
    obtain ⟨rest, inner, found, items, -, ⟨rfl⟩, doubled, scanned, related⟩ :=
      exists_of_decodeWithin_array decoded
    obtain ⟨entry, member, valued⟩ := exists_mem_of_forall₂ related _ mem
    have inside := ih valued
    have shorter := length_le_of_scan scanned entry member
    omega

/-- A text `s` that can be held in memory is too short for a document `e` below the depth limit. -/
theorem level_le_of_decode_of_length_lt {s : Bytes} {d e : Document} {level : Nat}
    (decoded : decode s = .ok d) (nests : d.NestsAt level e) (held : s.length < 2 ^ 63) :
    level ≤ depthLimit := by
  obtain ⟨found, scanned, -, related⟩ := exists_of_decodeWith decoded
  obtain ⟨n, mem, inside⟩ := nests
  obtain ⟨entry, member, -, valued⟩ := exists_mem_of_forall₂ related n mem
  have doubled := two_pow_le_length_of_decodeWithin valued inside
  have shorter := length_le_of_scan scanned entry member
  have below : 2 ^ level < 2 ^ 63 := by omega
  have few : level < 63 := (Nat.pow_lt_pow_iff_right (by decide)).1 below
  rw [depthLimit]
  omega

end Delimited

/-! ## All formats -/

namespace Codec

variable {f : Format} {s : Bytes} {d : Document}

/-- Readers that count documents stop at `depthLimit`. -/
theorem nestsWithin_of_decode (other : f ≠ .text) (decoded : Codec.decode f s = .ok d) :
    ∀ n ∈ d.values, n.value.NestsWithin depthLimit := by
  cases f with
  | text => exact absurd rfl other
  | json =>
    obtain ⟨t, -, described⟩ := Option.bind_eq_some_iff.1 (decode_json_eq_ok_iff.1 decoded)
    cases t with
    | object members => exact Json.nestsWithin_of_documentOf? members described nofun
    | _ => cases described
  | xml =>
    obtain ⟨root, -, described⟩ :=
      Except.exists_of_bind_eq_ok (Except.eq_ok_of_mapError_eq_ok decoded)
    exact (Xml.nestsWithin_of_documentOf root described).2
  | msgpack =>
    obtain ⟨⟨head, rest⟩, -, described⟩ :=
      Except.exists_of_bind_eq_ok (Except.eq_ok_of_mapError_eq_ok decoded)
    dsimp only at described
    split at described
    · obtain ⟨⟨read, left⟩, inside, finish⟩ := Except.exists_of_bind_eq_ok described
      cases finish
      exact (MessagePack.countsLevels _).document inside nofun
    · cases described

/-- Whatever `f` reads from `s`, no document in it is nested below `depthLimit`, except that the
text format goes one level further for a document without values. It would take a text longer than
any that can be held in memory, but `decodeValue` starts inside `depth` containers and arrays, and
goes down as far from there. -/
theorem level_le_of_decode (f : Format) (s : Bytes) (kind : Kind) (raw : Bytes) (depth : Nat) :
    (∀ d, Codec.decode f s = .ok d → ∀ level e, d.NestsAt level e →
      (level ≤ depthLimit ∨ f = .text ∧ level = depthLimit + 1 ∧ e.values = []) ∧
        (s.length < 2 ^ 63 → level ≤ depthLimit)) ∧
    ∀ v, Delimited.decodeValue kind raw depth = .ok v → ∀ level e, v.NestsAt level e →
      depth + level ≤ depthLimit ∨ depth + level = depthLimit + 1 ∧ e.values = [] := by
  constructor
  · intro d decoded level e nests
    -- only the text format lets one level more through
    by_cases text : f = .text
    · subst text
      have read := Except.eq_ok_of_mapError_eq_ok decoded
      have bounds := Delimited.level_le_of_decode_text read nests
      exact ⟨bounds.imp_right fun deeper => ⟨rfl, deeper⟩,
        Delimited.level_le_of_decode_of_length_lt read nests⟩
    · obtain ⟨n, mem, inside⟩ := nests
      have within : level ≤ depthLimit := nestsWithin_of_decode text decoded n mem level e inside
      exact ⟨.inl within, fun _ => within⟩
  · intro v decoded level e nests
    exact Delimited.level_le_of_decodeValue decoded nests

/-- An object in an object. -/
def nestedObject : Bytes := Utf8.encode "\x7b\x22values\x22:\x7b\x22k\x22:\x7b\x7d\x7d\x7d"

/-- A payload that stands for a document without values. -/
def emptyPayload : Bytes := Hex.encode (Utf8.encode "@data=\x7b\x7d;")

theorem exists_decode_nestedObject :
    ∃ d e, Codec.decode .json nestedObject = .ok d ∧ d.NestsAt 1 e := by
  have kinds : (Codec.decode .json nestedObject).map (fun d => d.values.map (·.kind)) =
      .ok [.container] := by
    decide +kernel
  obtain ⟨d, read, kinds⟩ := Except.exists_of_map_eq_ok kinds
  obtain ⟨n, values, kind⟩ := List.map_eq_singleton_iff.1 kinds
  obtain ⟨e, nests⟩ := Value.exists_nestsAt_of_kind kind
  exact ⟨d, e, read, n, by rw [values]; exact List.mem_singleton_self n, nests⟩

theorem exists_decodeValue_emptyPayload :
    ∃ v e, Delimited.decodeValue .container emptyPayload depthLimit = .ok v ∧ v.NestsAt 1 e := by
  have kind : (Delimited.decodeValue .container emptyPayload depthLimit).map Value.kind =
      .ok .container := by
    decide +kernel
  obtain ⟨v, read, kind⟩ := Except.exists_of_map_eq_ok kind
  obtain ⟨e, nests⟩ := Value.exists_nestsAt_of_kind kind
  exact ⟨v, e, read, nests⟩

theorem level_le_of_decode_nestedObject :
    (∃ d e, Codec.decode .json nestedObject = .ok d ∧ d.NestsAt 1 e ∧
        nestedObject.length < 2 ^ 63 ∧ 1 ≤ depthLimit) ∧
      ∃ v e, Delimited.decodeValue .container emptyPayload depthLimit = .ok v ∧ v.NestsAt 1 e ∧
        (depthLimit + 1 ≤ depthLimit ∨ depthLimit + 1 = depthLimit + 1 ∧ e.values = []) := by
  obtain ⟨documents, values⟩ :=
    level_le_of_decode .json nestedObject .container emptyPayload depthLimit
  obtain ⟨d, e, read, nests⟩ := exists_decode_nestedObject
  obtain ⟨v, e', valued, inside⟩ := exists_decodeValue_emptyPayload
  have held : nestedObject.length < 2 ^ 63 := by decide
  obtain ⟨-, within⟩ := documents d read 1 e nests
  exact ⟨⟨d, e, read, nests, held, within held⟩, v, e', valued, inside, values v valued 1 e' inside⟩

/-- At `depthLimit`, the last depth at which values are read, a container is read whose document is
one level too deep. -/
theorem exists_nestsAt_emptyPayload :
    ∃ v e, Delimited.decodeValue .container emptyPayload depthLimit = .ok v ∧ v.NestsAt 1 e ∧
      ¬depthLimit + 1 ≤ depthLimit := by
  obtain ⟨v, e, read, nests⟩ := exists_decodeValue_emptyPayload
  exact ⟨v, e, read, nests, Nat.not_succ_le_self depthLimit⟩

end Codec

end Parcel
