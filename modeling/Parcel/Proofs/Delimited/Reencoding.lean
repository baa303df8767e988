import Parcel.Proofs.Delimited.RoundTrip
import Parcel.Proofs.Delimited.Scanned

/-!
# Writing what was read

A document that was read from a text can be written again, and then reads back the same, provided
that no name in it has a bracket. Header values and payloads need no condition, since the reader has
cut them at the first end of a pair. Names are cut at the first comma only, so a pair that lacks its
commas runs on into the next one, and what comes out as a name has the brackets of both. Such a
document is read without complaint and cannot be written.

## Main results

* `Delimited.exists_read_of_hasPart` — what is nested in a document that was read was read itself
* `Delimited.exists_encodeValue_of_decodeWithin` — a value that was read can be written
* `Delimited.within_of_decodeWithin` — and is not nested too deeply to be read again
* `Delimited.isName_of_usesName` — what is written has names that can be written, at any depth
* `Delimited.encode_decoded_iff` — when a document that was read can be written
* `Delimited.decode_runOnText` — a pair that runs on into the next one
-/

namespace Parcel.Delimited

variable {s : Bytes} {d : Document} {levels : Nat}

/-! ## Names -/

/-- A name can be written, `isName`, when it is not empty and has no comma and no bracket. -/
theorem isName_iff {name : Bytes} : isName name ↔
    name ≠ [] ∧ Bytes.ofChar ',' ∉ name ∧ Bytes.ofChar '[' ∉ name ∧ Bytes.ofChar ']' ∉ name := by
  have apart : name.any isDelimiter = false ↔
      Bytes.ofChar ',' ∉ name ∧ Bytes.ofChar '[' ∉ name ∧ Bytes.ofChar ']' ∉ name := by
    rw [List.any_eq_false]
    constructor
    · intro none
      refine ⟨fun mem => none _ mem ?_, fun mem => none _ mem ?_, fun mem => none _ mem ?_⟩ <;>
        decide
    · rintro ⟨comma, opening, closing⟩ b mem
      simp only [isDelimiter, Bool.or_eq_true, beq_iff_eq]
      rintro ((rfl | rfl) | rfl)
      · exact comma mem
      · exact opening mem
      · exact closing mem
  rw [isName, Bool.and_eq_true, Bool.not_eq_true', Bool.not_eq_true', List.isEmpty_eq_false_iff,
    apart]

/-! ## Reading a value -/

/-- A value of a `flat` kind that was read can be written again, if the bytes it was read from do
not contain the end of a pair. -/
theorem exists_encodeValue_of_flat {kind : Kind} {raw : Bytes} {v : Value}
    (decoded : decodeWithin levels kind raw = .ok v) (flat : kind ≠ .container ∧ kind ≠ .array)
    (ends : hasTerminator raw = false) (name : String) : ∃ t, encodeValue name v = .of t := by
  have kind_eq := kind_of_decodeWithin decoded
  -- literals are always written; strings and bytes are written as the bytes they were read from
  cases v with
  | string text =>
    cases levels with
    | zero => cases decoded
    | succ levels =>
      obtain rfl : kind = .string := kind_eq.symm
      obtain ⟨t, read, same⟩ := Except.exists_of_map_eq_ok decoded
      cases same
      rw [Utf8.eq_encode_of_decode (Except.eq_ok_of_mapError_eq_ok read)] at ends
      exact ⟨_, verbatim_eq_of_iff.2 ⟨ends, rfl⟩⟩
  | bytes x =>
    cases levels with
    | zero => cases decoded
    | succ levels =>
      obtain rfl : kind = .bytes := kind_eq.symm
      cases decoded
      exact ⟨_, verbatim_eq_of_iff.2 ⟨ends, rfl⟩⟩
  | container d => exact absurd kind_eq.symm flat.1
  | array items => exact absurd kind_eq.symm flat.2
  | _ => exact ⟨_, rfl⟩

/-- The payload `raw` has two digits for every byte of `inner`, and possibly white space around
them. -/
theorem length_of_unhex {kind : Kind} {raw inner : Bytes} (decoded : unhex kind raw = .ok inner) :
    2 * inner.length ≤ raw.length := by
  obtain ⟨digits, read, stands⟩ := Except.exists_of_bind_eq_ok decoded
  obtain ⟨s, named, rfl⟩ := Except.exists_of_map_eq_ok read
  have raw_eq := Utf8.eq_encode_of_decode (Except.eq_ok_of_mapError_eq_ok named)
  have paired := Hex.length_of_decode (Except.eq_ok_of_mapError_eq_ok stands)
  have trimmed : (Utf8.encodeChars (Unicode.trimChars s.toList)).length ≤ (Utf8.encode s).length :=
    ((Unicode.trimChars_sublist s.toList).flatMap String.utf8EncodeChar).length_le
  rw [raw_eq, ← paired]
  exact trimmed

/-- A container is read from the document that the digits in `raw` stand for, with one level
less. -/
theorem exists_of_decodeWithin_container {raw : Bytes} {v : Value}
    (decoded : decodeWithin levels .container raw = .ok v) :
    ∃ rest inner d, levels = rest + 1 ∧ v = .container d ∧ 2 * inner.length ≤ raw.length ∧
      decodeWith (decodeWithin rest) inner = .ok d := by
  cases levels with
  | zero => cases decoded
  | succ rest =>
    obtain ⟨inner, digits, inside⟩ := Except.exists_of_bind_eq_ok decoded
    obtain ⟨d, read, finish⟩ := Except.exists_of_bind_eq_ok inside
    cases finish
    exact ⟨rest, inner, d, rfl, rfl, length_of_unhex digits, read⟩

/-- The items of an array are read from the entries of a scan of what the digits in `raw` stand for,
with one level less. -/
theorem exists_of_decodeWithin_array {raw : Bytes} {v : Value}
    (decoded : decodeWithin levels .array raw = .ok v) :
    ∃ rest inner found items, levels = rest + 1 ∧ v = .array items ∧
      2 * inner.length ≤ raw.length ∧ scan inner = .ok found ∧
      List.Forall₂ (fun e v => decodeWithin rest e.kind e.value.bytes = .ok v)
        found.entries items := by
  cases levels with
  | zero => cases decoded
  | succ rest =>
    obtain ⟨inner, digits, inside⟩ := Except.exists_of_bind_eq_ok decoded
    obtain ⟨found, scanned, inside⟩ := Except.exists_of_bind_eq_ok inside
    obtain ⟨items, read, finish⟩ := Except.exists_of_bind_eq_ok inside
    cases finish
    exact ⟨rest, inner, found, items, rfl, rfl, length_of_unhex digits, scanned,
      List.mapM_eq_ok_iff.1 read⟩

/-- The values of a document are read from the entries of a `scan`, under the names of the entries.
-/
theorem exists_of_decodeWith {read : Kind → Bytes → Except Fault Value}
    (decoded : decodeWith read s = .ok d) :
    ∃ found, scan s = .ok found ∧ d.header = found.header ∧
      List.Forall₂ (fun e n => e.name.bytes = Utf8.encode n.name ∧
        read e.kind e.value.bytes = .ok n.value) found.entries d.values := by
  obtain ⟨found, scanned, rest⟩ := Except.exists_of_bind_eq_ok decoded
  obtain ⟨values, each, finish⟩ := Except.exists_of_bind_eq_ok rest
  cases finish
  refine ⟨found, scanned, rfl, (List.mapM_eq_ok_iff.1 each).imp ?_⟩
  intro e n entry
  obtain ⟨name, named, entry⟩ := Except.exists_of_bind_eq_ok entry
  obtain ⟨value, valued, entry⟩ := Except.exists_of_bind_eq_ok entry
  cases entry
  exact ⟨Utf8.eq_encode_of_decode (Except.eq_ok_of_mapError_eq_ok named), valued⟩

/-- What is `related` to all members on one side relates each member of the other side to one. -/
theorem exists_mem_of_forall₂ {α β : Type} {related : α → β → Prop} {as : List α} {bs : List β}
    (all : List.Forall₂ related as bs) : ∀ b ∈ bs, ∃ a ∈ as, related a b := by
  induction all with
  | nil => exact nofun
  | @cons a b as bs first rest ih =>
    intro x mem
    rcases List.mem_cons.1 mem with rfl | later
    · exact ⟨a, List.mem_cons_self, first⟩
    · obtain ⟨y, member, related⟩ := ih x later
      exact ⟨y, List.mem_cons_of_mem _ member, related⟩

/-- A document that is nested in a value that was read was read from some bytes `inner` itself. -/
theorem exists_read_of_hasPart {kind : Kind} {raw : Bytes} {v : Value} {e : Document}
    (decoded : decodeWithin levels kind raw = .ok v) (part : v.HasPart e) :
    ∃ rest inner, decodeWith (decodeWithin rest) inner = .ok e := by
  obtain ⟨depth, holds⟩ := part
  generalize target : Value.container e = part at holds
  -- the way down to the part takes one level of the reader at each step
  induction holds generalizing levels kind raw with
  | here v =>
    subst target
    obtain rfl : kind = .container := (kind_of_decodeWithin decoded).symm
    obtain ⟨rest, inner, d, -, ⟨rfl⟩, -, read⟩ := exists_of_decodeWithin_container decoded
    exact ⟨rest, inner, read⟩
  | container mem _ ih =>
    obtain rfl : kind = .container := (kind_of_decodeWithin decoded).symm
    obtain ⟨rest, inner, d, -, ⟨rfl⟩, -, read⟩ := exists_of_decodeWithin_container decoded
    obtain ⟨found, -, -, related⟩ := exists_of_decodeWith read
    obtain ⟨entry, -, -, valued⟩ := exists_mem_of_forall₂ related _ mem
    exact ih valued target
  | array mem _ ih =>
    obtain rfl : kind = .array := (kind_of_decodeWithin decoded).symm
    obtain ⟨rest, inner, found, items, -, ⟨rfl⟩, -, -, related⟩ :=
      exists_of_decodeWithin_array decoded
    obtain ⟨entry, -, valued⟩ := exists_mem_of_forall₂ related _ mem
    exact ih valued target

/-- Whatever is read, no name that it `UsesName` is empty or has a comma. -/
theorem usable_of_usesName {name : String} (decoded : decodeWith (decodeWithin levels) s = .ok d)
    (uses : d.UsesName name) : name ≠ "" ∧ Bytes.ofChar ',' ∉ Utf8.encode name := by
  obtain ⟨e, part, n, mem, rfl⟩ := uses
  have read : ∃ rest inner, decodeWith (decodeWithin rest) inner = .ok e := by
    rcases Document.hasPart_iff.1 part with rfl | ⟨m, member, inside⟩
    · exact ⟨levels, s, decoded⟩
    · obtain ⟨found, -, -, related⟩ := exists_of_decodeWith decoded
      obtain ⟨entry, -, -, valued⟩ := exists_mem_of_forall₂ related m member
      exact exists_read_of_hasPart valued inside
  obtain ⟨rest, inner, read⟩ := read
  obtain ⟨found, scanned, -, related⟩ := exists_of_decodeWith read
  obtain ⟨entry, member, named, -⟩ := exists_mem_of_forall₂ related n mem
  have sound := sound_of_scan scanned entry member
  refine ⟨fun empty => sound.named ?_, named ▸ sound.comma⟩
  rw [named, empty]
  rfl

/-! ## Writing it again -/

/-- All names in the documents inside a value can be written. -/
def Nameable (v : Value) : Prop := ∀ e, v.HasPart e → ∀ n ∈ e.values, isName (Utf8.encode n.name)

/-- A document that was read can be written when it is `Nameable` and its values can. -/
theorem exists_encode_of_decodeWith {read : Kind → Bytes → Except Fault Value}
    (decoded : decodeWith read s = .ok d) (nameable : Nameable (.container d))
    (values : ∀ {kind raw v}, read kind raw = .ok v → hasTerminator raw = false → Nameable v →
      ∀ name, ∃ t, encodeValue name v = .of t) : ∃ t, encode d = .of t := by
  obtain ⟨found, scanned, header_eq, related⟩ := exists_of_decodeWith decoded
  have carries := carries_of_scan scanned
  have absent : ∀ p ∈ d.header.wireFields, hasTerminator (Utf8.encode p.2) = false := by
    intro p mem
    obtain ⟨field, -, rfl⟩ := List.mem_map.1 mem
    rw [header_eq]
    exact carries field
  have writable : ∀ n ∈ d.values, Writable n := by
    intro n mem
    obtain ⟨e, member, -, valued⟩ := exists_mem_of_forall₂ related n mem
    have inside : Nameable n.value := fun part has =>
      nameable part (Document.hasPart_iff.2 (.inr ⟨n, mem, has⟩))
    obtain ⟨t, written⟩ := values valued (sound_of_scan scanned e member).ends inside n.name
    refine ⟨nameable d (Document.HasPart.refl d) n mem, ?_⟩
    rw [payload, written]
    rfl
  exact ⟨_, encode_eq_of_iff.2 ⟨absent, writable, rfl⟩⟩

/-- A position can be written as a name. -/
theorem isName_numeral (n : Nat) : isName (Utf8.encode (Decimal.text n)) := by
  have bytes_eq : Utf8.encode (Decimal.text n) = numeral n := by
    rw [Utf8.encode, Decimal.text, String.toList_ofList, numeral]
  have no (char : Char) (single : char.toNat < 0x80) (other : Decimal.isDigit char = false) :
      Bytes.ofChar char ∉ Utf8.encode (Decimal.text n) :=
    bytes_eq ▸ not_mem_numeral single other n
  refine isName_iff.2 ⟨?_, no ',' (by decide) (by decide), no '[' (by decide) (by decide),
    no ']' (by decide) (by decide)⟩
  intro empty
  have blank : Decimal.text n = "" := Utf8.encode_injective empty
  exact Decimal.ofNat_ne_nil n (String.ofList_injective blank)

/-- The names of the items of an array, as `numbered` gives them, are positions. -/
theorem exists_position_of_mem_numbered {index : Nat} {items : List Value} {n : Named}
    (mem : n ∈ numbered index items) : ∃ position, n.name = Decimal.text position := by
  induction items generalizing index with
  | nil => cases mem
  | cons v items ih =>
    rcases List.mem_cons.1 mem with rfl | later
    · exact ⟨index, rfl⟩
    · exact ih later

/-- Values that can be written under any name can be written as the items of an array. -/
theorem exists_encodeValue_array {items : List Value}
    (each : ∀ v ∈ items, ∀ name, ∃ t, encodeValue name v = .of t) (name : String) :
    ∃ t, encodeValue name (.array items) = .of t := by
  refine ⟨_, encodeValue_array_iff.2 ⟨fun n mem => ?_, rfl⟩⟩
  obtain ⟨position, named⟩ := exists_position_of_mem_numbered mem
  obtain ⟨t, written⟩ := each n.value (mem_items_iff.2 ⟨n, mem, rfl⟩) n.name
  refine ⟨?_, ?_⟩
  · rw [named]
    exact isName_numeral position
  · rw [payload, written]
    rfl

/-- A value that was read from what does not contain the end of a pair can be written, when it is
`Nameable`. -/
theorem exists_encodeValue_of_decodeWithin {kind : Kind} {raw : Bytes} {v : Value}
    (decoded : decodeWithin levels kind raw = .ok v) (ends : hasTerminator raw = false)
    (nameable : Nameable v) (name : String) : ∃ t, encodeValue name v = .of t := by
  -- every level of nesting is one level less for what is inside
  induction levels generalizing kind raw v name with
  | zero => cases decoded
  | succ levels ih =>
    cases kind with
    | container =>
      obtain ⟨_, inner, d, ⟨rfl⟩, rfl, -, read⟩ := exists_of_decodeWithin_container decoded
      obtain ⟨t, written⟩ := exists_encode_of_decodeWith read nameable
        fun read ends nameable name => ih read ends nameable name
      exact ⟨_, Draft.wrap_eq_of_iff.2 ⟨t, written, rfl⟩⟩
    | array =>
      obtain ⟨_, inner, found, items, ⟨rfl⟩, rfl, -, scanned, related⟩ :=
        exists_of_decodeWithin_array decoded
      refine exists_encodeValue_array (fun v mem name => ?_) name
      obtain ⟨e, member, valued⟩ := exists_mem_of_forall₂ related v mem
      have inside : Nameable v := fun part has =>
        nameable part (Value.hasPart_array_iff.2 ⟨v, mem, has⟩)
      exact ih valued (sound_of_scan scanned e member).ends inside name
    | _ => exact exists_encodeValue_of_flat decoded ⟨nofun, nofun⟩ ends name

/-- A value that was read is not nested deeper than there were `levels` left. -/
theorem within_of_decodeWithin {kind : Kind} {raw : Bytes} {v : Value}
    (decoded : decodeWithin levels kind raw = .ok v) : v.Within levels := by
  -- the reader counts levels down as it goes in, so none is left where nothing can be read
  induction levels generalizing kind raw v with
  | zero => cases decoded
  | succ levels ih =>
    cases kind with
    | container =>
      obtain ⟨_, inner, d, ⟨rfl⟩, rfl, -, read⟩ := exists_of_decodeWithin_container decoded
      obtain ⟨found, -, -, related⟩ := exists_of_decodeWith read
      refine Value.within_container_iff.2 fun n mem => ?_
      obtain ⟨e, -, -, valued⟩ := exists_mem_of_forall₂ related n mem
      exact ih valued
    | array =>
      obtain ⟨_, inner, found, items, ⟨rfl⟩, rfl, -, -, related⟩ :=
        exists_of_decodeWithin_array decoded
      refine Value.within_array_iff.2 fun v mem => ?_
      obtain ⟨e, -, valued⟩ := exists_mem_of_forall₂ related v mem
      exact ih valued
    | _ =>
      refine Value.within_succ_of_flat ?_
      rw [kind_of_decodeWithin decoded]
      exact ⟨nofun, nofun⟩

/-! ## What was written -/

/-- A document that is nested in a value that can be written can be written itself. -/
theorem exists_encode_of_hasPart {name : String} {t : Bytes} {v : Value} {e : Document}
    (written : encodeValue name v = .of t) (part : v.HasPart e) : ∃ x, encode e = .of x := by
  obtain ⟨depth, holds⟩ := part
  generalize target : Value.container e = part at holds
  -- what encloses the part is written only with all that is in it
  induction holds generalizing name t with
  | here v =>
    subst target
    obtain ⟨x, inner, -⟩ := Draft.wrap_eq_of_iff.1 written
    exact ⟨x, inner⟩
  | container mem _ ih =>
    obtain ⟨x, inner, -⟩ := Draft.wrap_eq_of_iff.1 written
    obtain ⟨-, writable, -⟩ := encode_eq_of_iff.1 inner
    exact ih (writable _ mem).value target
  | array mem _ ih =>
    obtain ⟨writable, -⟩ := encodeValue_array_iff.1 written
    obtain ⟨n, member, rfl⟩ := mem_items_iff.1 mem
    exact ih (writable n member).value target

/-- What is written `UsesName` only of names that can be written, in whatever is nested in it. -/
theorem isName_of_usesName {name : String} {t : Bytes} (written : encode d = .of t)
    (uses : d.UsesName name) : isName (Utf8.encode name) := by
  obtain ⟨e, part, n, mem, rfl⟩ := uses
  have container : encodeValue n.name (.container d) = .of (Hex.encode t) :=
    Draft.wrap_eq_of_iff.2 ⟨t, written, rfl⟩
  obtain ⟨x, inner⟩ := exists_encode_of_hasPart container part
  obtain ⟨-, writable, -⟩ := encode_eq_of_iff.1 inner
  exact (writable n mem).name

/-! ## Documents -/

/-- A document that was read has no name that is empty or has a comma. It can be written exactly
when no name that it `UsesName` has a bracket either, and then it reads back. -/
theorem encode_decoded_iff (decoded : Codec.decode .text s = .ok d) :
    (∀ name, d.UsesName name → name ≠ "" ∧ Bytes.ofChar ',' ∉ Utf8.encode name) ∧
      ((∃ t, Codec.encode .text d = .ok t) ↔
        ∀ name, d.UsesName name →
          Bytes.ofChar '[' ∉ Utf8.encode name ∧ Bytes.ofChar ']' ∉ Utf8.encode name) ∧
      ∀ t, Codec.encode .text d = .ok t → Codec.decode .text t = .ok d.received := by
  have read : decodeWith (decodeWithin (levelsAt 0)) s = .ok d :=
    Except.eq_ok_of_mapError_eq_ok decoded
  have usable : ∀ name, d.UsesName name → name ≠ "" ∧ Bytes.ofChar ',' ∉ Utf8.encode name :=
    fun name uses => usable_of_usesName read uses
  refine ⟨usable, ⟨?_, fun bare => ?_⟩, fun t written => ?_⟩
  · rintro ⟨t, written⟩ name uses
    exact (isName_iff.1 (isName_of_usesName (Draft.finish_eq_ok_iff.1 written) uses)).2.2
  · -- the scan sees to commas and empty names; only brackets have to be asked for
    have nameable : Nameable (.container d) := by
      intro e part n mem
      obtain ⟨named, comma⟩ := usable n.name ⟨e, part, n, mem, rfl⟩
      refine isName_iff.2 ⟨fun empty => named (Utf8.encode_injective empty), comma, ?_⟩
      exact bare n.name ⟨e, part, n, mem, rfl⟩
    obtain ⟨t, written⟩ := exists_encode_of_decodeWith read nameable
      fun read ends nameable name => exists_encodeValue_of_decodeWithin read ends nameable name
    exact ⟨t, Draft.finish_eq_ok_iff.2 written⟩
  · -- what was read once is not nested too deep to be read again
    have within : ∀ n ∈ d.values, n.value.Within (levelsAt 0) := by
      obtain ⟨found, -, -, related⟩ := exists_of_decodeWith read
      intro n mem
      obtain ⟨entry, -, -, valued⟩ := exists_mem_of_forall₂ related n mem
      exact within_of_decodeWithin valued
    have again :=
      decodeWith_eq_ok (readsWithin (levelsAt 0)) (Draft.finish_eq_ok_iff.1 written) within
    change (decodeWith (decodeWithin (levelsAt 0)) t).mapError Fault.error = _
    rw [again]
    rfl

/-- A text with a nested document in which a payload has a bracket and no name has one. -/
def bracketedText : Bytes :=
  Utf8.encode "@data=\x7b[c,14," ++ Hex.encode (Utf8.encode "@data=\x7b[a,12,x]y];\x7d") ++
    Utf8.encode "];\x7d"

theorem encode_decoded_bracketedText :
    ∃ d t, Codec.decode .text bracketedText = .ok d ∧ Codec.encode .text d = .ok t ∧
      Codec.decode .text t = .ok d.received ∧
      ∀ name, d.UsesName name → name ≠ "" ∧ Bytes.ofChar ',' ∉ Utf8.encode name ∧
        Bytes.ofChar '[' ∉ Utf8.encode name ∧ Bytes.ofChar ']' ∉ Utf8.encode name := by
  have both : (Codec.decode .text bracketedText >>= Codec.encode .text).isOk = true := by
    decide +kernel
  obtain ⟨t, chained⟩ : ∃ t, (Codec.decode .text bracketedText >>= Codec.encode .text) = .ok t := by
    cases result : Codec.decode .text bracketedText >>= Codec.encode .text with
    | error e =>
      rw [result] at both
      cases both
    | ok t => exact ⟨t, rfl⟩
  obtain ⟨d, decoded, written⟩ := Except.exists_of_bind_eq_ok chained
  obtain ⟨usable, writable, again⟩ := encode_decoded_iff decoded
  refine ⟨d, t, decoded, written, again t written, fun name uses => ?_⟩
  obtain ⟨named, comma⟩ := usable name uses
  exact ⟨named, comma, writable.1 ⟨t, written⟩ name uses⟩

/-- A pair without commas in front of a whole one. -/
def runOnText : Bytes := Utf8.encode "@data=\x7b[a];[b,4,2];\x7d"

/-- The name of the first pair of `runOnText` ends at the comma of the second, so it cannot be
written. -/
theorem decode_runOnText :
    ∃ d, Codec.decode .text runOnText = .ok d ∧ d.values.map Named.name = ["a];[b"] ∧
      Codec.encode .text d = .error (Refusal.unusableName "a];[b").error := by
  have read : (Codec.decode .text runOnText).map
        (fun d => (d.values.map Named.name, Codec.encode .text d)) =
      .ok (["a];[b"], .error (Refusal.unusableName "a];[b").error) := by
    decide +kernel
  obtain ⟨d, decoded, same⟩ := Except.exists_of_map_eq_ok read
  exact ⟨d, decoded, congrArg Prod.fst same, congrArg Prod.snd same⟩

end Parcel.Delimited
