import Parcel.Proofs.Delimited.Accepted
import Parcel.Proofs.Delimited.Layout
import Parcel.Proofs.Delimited.RoundTrip

/-!
# Layout carries nothing

A document can be laid out in many ways: both blocks in any layout, the fields of the header in any
order and among pairs that name no field, white space around identifiers and type tags, and the
digits of nested payloads in either case. All of them are read as the document that was written,
entry by entry.

A rendering consists of its layout, of the pairs as they are laid out, and of a proof that these
are the pairs of the document. What a value may be written as is left open, so that the same
scanner lemmas serve documents that are laid out freely inside nested payloads too.

## Main definitions

* `Delimited.Rendering`, `Rendering.bytes` — a document laid out, and its bytes
* `Delimited.Recased` — the same bytes but for the case of hexadecimal digits
* `Delimited.SpelledWithin` — payloads that are laid out freely for some levels

## Main results

* `Delimited.scan_rendering` — the entries of a rendering are its pairs
* `Delimited.decodeWith_rendering` — it is read like the encoding, if its values are
* `Delimited.decode_rendering` — a rendering of a document decodes like its encoding
* `Delimited.decode_nestedRendering` — also if nested payloads are renderings themselves
-/

namespace Parcel.Delimited

/-! ## White space around numerals -/

namespace Gap

/-- The characters of a run of white space. -/
def chars (w : Gap) : List Char := w.bytes.map fun b => Char.ofNat b.toNat

theorem isBlank_of_mem (w : Gap) {b : UInt8} (mem : b ∈ w.bytes) : Bytes.isBlank b :=
  List.all_eq_true.1 w.blank b mem

theorem encodeChars_chars (w : Gap) : Utf8.encodeChars w.chars = w.bytes :=
  Utf8.encodeChars_ofNat fun _ mem => toNat_lt_of_isBlank (w.isBlank_of_mem mem)

theorem isBlank_of_mem_chars (w : Gap) {c : Char} (mem : c ∈ w.chars) : Unicode.isBlank c := by
  obtain ⟨b, found, rfl⟩ := List.mem_map.1 mem
  have blank := w.isBlank_of_mem found
  simp only [Bytes.isBlank, Bool.or_eq_true, beq_iff_eq] at blank
  rcases blank with (((rfl | rfl) | rfl) | rfl) | rfl <;> decide

/-- Bytes with white space around them. -/
def around (before : Gap) (x : Bytes) (after : Gap) : Bytes := before.bytes ++ (x ++ after.bytes)

theorem not_mem_around {b : UInt8} {x : Bytes} (visible : Bytes.isBlank b = false) (absent : b ∉ x)
    (before after : Gap) : b ∉ around before x after := by
  have outside (w : Gap) : b ∉ w.bytes := fun mem => by
    rw [w.isBlank_of_mem mem] at visible
    cases visible
  simp [around, outside, absent]

variable {before after : Gap}

theorem trimBlanks_around (n : Nat) :
    Bytes.trimBlanks (around before (numeral n) after) = numeral n :=
  trim_append (fun _ mem => before.isBlank_of_mem mem)
    (fun _ mem => Bytes.isBlank_of_isGraphic (fun _ found => isGraphic_of_mem_ofNat found) mem)
    fun _ mem => after.isBlank_of_mem mem

/-- The text of a numeral with white space around it. -/
def aroundText (before : Gap) (n : Nat) (after : Gap) : String :=
  String.ofList (before.chars ++ (Decimal.ofNat n ++ after.chars))

theorem encode_aroundText (n : Nat) :
    Utf8.encode (aroundText before n after) = around before (numeral n) after := by
  rw [aroundText, Utf8.encode, String.toList_ofList, Utf8.encodeChars_append,
    Utf8.encodeChars_append, encodeChars_chars, encodeChars_chars]
  rfl

theorem fieldOf?_aroundText (field : Field) :
    fieldOf? (aroundText before field.number after) = some field := by
  have trimmed : Unicode.trimChars
      (before.chars ++ (Decimal.ofNat field.number ++ after.chars)) = Decimal.ofNat field.number :=
    trim_append (fun _ mem => before.isBlank_of_mem_chars mem)
      (fun _ mem => Unicode.isBlank_of_isGraphic (isGraphic_of_mem_ofNat mem))
      fun _ mem => after.isBlank_of_mem_chars mem
  rw [fieldOf?, aroundText, String.toList_ofList, trimmed, Decimal.natural?_ofNat,
    Option.bind_some, ofNumber?_number]

end Gap

/-! ## Header blocks -/

/-- A pair of a header block. -/
inductive HeaderPair where
  /-- A field, with white space `before` and `after` its number. -/
  | known (before : Gap) (field : Field) (after : Gap) (value : String)
  /-- A pair that the scanner can read and whose identifier `id` names no field. -/
  | unknown (id value : String) (nameless : fieldOf? id = none)
    (single : Bytes.ofChar ',' ∉ Utf8.encode id)
    (closed : hasTerminator (Utf8.encode value) = false)

namespace HeaderPair

/-- The identifier as it is written. -/
def id : HeaderPair → Bytes
  | known before field after _ => before.around (numeral field.number) after
  | unknown id _ _ _ _ => Utf8.encode id

/-- The value. -/
def value : HeaderPair → String
  | known _ _ _ value => value
  | unknown _ value _ _ _ => value

/-- The field, if any. -/
def field? : HeaderPair → Option Field
  | known _ field _ _ => some field
  | unknown _ _ _ _ _ => none

/-- The pair without its opening bracket. -/
def bytes (p : HeaderPair) : Bytes :=
  p.id ++ Bytes.ofChar ',' :: (Utf8.encode p.value ++ terminator)

/-- What is read of the pair. -/
def read (p : HeaderPair) : FieldPair := (p.field?, p.value)

/-- The field with its value, if any. -/
def named? (p : HeaderPair) : Option (Field × String) := p.field?.map (·, p.value)

theorem takes (p : HeaderPair)
    (absent : ∀ q, p.named? = some q → hasTerminator (Utf8.encode q.2) = false) :
    fieldReader.Takes p.bytes (· = p.read) := by
  cases p with
  | known before field after value =>
    have single : Bytes.ofChar ',' ∉ before.around (numeral field.number) after :=
      Gap.not_mem_around (by decide) (not_mem_numeral (by decide) (by decide) _) before after
    rw [← Gap.encode_aroundText] at single
    have read := fieldReader_takes_text single (absent (field, value) rfl)
    rwa [Gap.encode_aroundText, Gap.fieldOf?_aroundText] at read
  | unknown id value nameless single closed =>
    have read := fieldReader_takes_text single closed
    rwa [nameless] at read

end HeaderPair

/-- A header block: its pairs, each behind white space, name the fields of the header on the wire in
any order. -/
structure HeaderBlock (h : Header) where
  /-- The pairs. -/
  pairs : List (Gap × HeaderPair)
  /-- The layout around them. -/
  layout : Layout
  /-- The fields that they name. -/
  complete : (pairs.filterMap fun p => p.2.named?).Perm h.wireFields

namespace HeaderBlock

variable {h : Header}

/-- The bytes of the block. -/
def bytes (b : HeaderBlock h) : Bytes :=
  b.layout.around Format.headerMark (spaced HeaderPair.bytes b.pairs)

/-- The pairs of a `HeaderBlock` give the header on the wire, whatever their order and what is among
them. -/
theorem headerOf_pairs (b : HeaderBlock h) :
    headerOf (b.pairs.map fun p => p.2.read) = h.onWire := by
  have fields : headerOf (b.pairs.map fun p => p.2.read) =
      Header.setAll {} (b.pairs.filterMap fun p => p.2.named?) := by
    rw [headerOf, List.filterMap_map]
    rfl
  rw [fields, ← Header.setAll_perm h.nodup_wireFields b.complete.symm, Header.setAll_wireFields]

/-- The header is read behind the leading white space, up to what follows the block. -/
theorem headerPart_bytes (b : HeaderBlock h) (lead : Gap) {y : Bytes} (detached : Detached y)
    (absent : ∀ p ∈ h.wireFields, hasTerminator (Utf8.encode p.2) = false) :
    ∃ n, headerPart (lead.bytes ++ (b.bytes ++ y)) = .ok (some h.onWire, ⟨n, y⟩) := by
  -- a pair that names a field is one of the fields on the wire, and so can be written
  have takes : ∀ p ∈ b.pairs, fieldReader.Takes p.2.bytes (· = p.2.read) :=
    fun p mem => p.2.takes fun q named =>
      absent q (b.complete.mem_iff.1 (List.mem_filterMap.2 ⟨p, mem, named⟩))
  obtain ⟨fields, c, related, next, read⟩ := block_spaced .header
    (fun (p : HeaderPair) a => a = p.read) takes b.layout detached
    (lead.bytes.length + Format.headerMark.length)
  have fields_eq : fields = b.pairs.map fun p => p.2.read := by
    symm
    rw [← List.forall₂_eq_eq_eq, List.forall₂_map_left_iff]
    exact related.imp fun _ _ => Eq.symm
  have bytes_eq : b.bytes ++ y = Format.headerMark ++ (b.layout.opening ++
      (spaced HeaderPair.bytes b.pairs ++ (b.layout.closing ++ y))) := by
    simp [bytes, Layout.around]
  refine ⟨c.skipBlanks.offset, ?_⟩
  unfold headerPart
  simp only [bytes_eq, Cursor.skipBlanks_gap, skipBlanks_mark (.inl rfl), Nat.zero_add,
    Cursor.eatAll?_append, read, bind, Except.bind, pure, Except.pure, fields_eq, b.headerOf_pairs]
  rw [← next]

end HeaderBlock

/-! ## Data blocks -/

/-- A value as it is laid out: with white space around its type tag, and written as one of the byte
strings that spell it. -/
structure ValuePair (Spells : Named → Bytes → Prop) where
  /-- The value and its name. -/
  named : Named
  /-- White space before the type tag. -/
  beforeTag : Gap
  /-- White space after the type tag. -/
  afterTag : Gap
  /-- What the value is written as. -/
  written : Bytes
  /-- It spells the value. -/
  spells : Spells named written

section Data

variable {Spells : Named → Bytes → Prop} {values : List Named} {h : Header} {d : Document}

/-- The pair without its opening bracket. -/
def ValuePair.bytes (p : ValuePair Spells) : Bytes :=
  Utf8.encode p.named.name ++ Bytes.ofChar ',' ::
    (p.beforeTag.around (numeral p.named.kind.tag) p.afterTag ++
      Bytes.ofChar ',' :: (p.written ++ terminator))

/-- The entry `e` stands where the pair is laid out. -/
def ValuePair.Found (p : ValuePair Spells) (e : Entry) : Prop :=
  e.Reads (Utf8.encode p.named.name) p.named.kind p.written

/-- No spelling of a value that can be written contains the end of a pair. -/
def Closed (Spells : Named → Bytes → Prop) : Prop :=
  ∀ n x, Writable n → Spells n x → hasTerminator x = false

theorem ValuePair.takes (p : ValuePair Spells) (closed : Closed Spells)
    (writable : Writable p.named) : valueReader.Takes p.bytes p.Found := by
  have single : Bytes.ofChar ',' ∉ p.beforeTag.around (numeral p.named.kind.tag) p.afterTag :=
    Gap.not_mem_around (by decide) (not_mem_numeral (by decide) (by decide) _) _ _
  exact valueReader_takes_trimmed writable.name single (Gap.trimBlanks_around _)
    (closed p.named p.written writable p.spells)

/-- A data block: its pairs, each behind white space, are `values` in order. -/
structure DataBlock (Spells : Named → Bytes → Prop) (values : List Named) where
  /-- The pairs. -/
  pairs : List (Gap × ValuePair Spells)
  /-- The layout around them. -/
  layout : Layout
  /-- The values that they hold. -/
  complete : (pairs.map fun p => p.2.named) = values

/-- The bytes of the block. -/
def DataBlock.bytes (b : DataBlock Spells values) : Bytes :=
  b.layout.around Format.dataMark (spaced ValuePair.bytes b.pairs)

/-- Behind a header part, a `DataBlock` is scanned to its end. -/
theorem DataBlock.scan_eq (b : DataBlock Spells values) (closed : Closed Spells)
    (writable : ∀ n ∈ values, Writable n) {s : Bytes} {header? : Option Header} {n : Nat}
    (header : headerPart s = .ok (header?, ⟨n, b.bytes⟩)) :
    ∃ entries, List.Forall₂ (fun p e => p.2.Found e) b.pairs entries ∧
      scan s = .ok ⟨header?.getD {}, entries⟩ := by
  have takes : ∀ p ∈ b.pairs, valueReader.Takes p.2.bytes p.2.Found := fun p mem =>
    p.2.takes closed (writable _ (b.complete ▸ List.mem_map.2 ⟨p, mem, rfl⟩))
  obtain ⟨entries, c, related, next, read⟩ := block_spaced .data ValuePair.Found takes b.layout
    (y := []) (fun _ mem => by cases mem) (n + Format.dataMark.length)
  have bytes_eq : b.bytes = Format.dataMark ++ (b.layout.opening ++
      (spaced ValuePair.bytes b.pairs ++ (b.layout.closing ++ []))) := by
    rw [List.append_nil]
    rfl
  refine ⟨entries, related, ?_⟩
  simp only [scan, header, bytes_eq, Cursor.eatAll?_append, read, bind, Except.bind, pure,
    Except.pure, next, List.isEmpty_nil, if_true]

/-- The document `d` laid out, with its values spelled as `Spells` allows. -/
structure Rendering (Spells : Named → Bytes → Prop) (d : Document) where
  /-- White space before the header block. -/
  lead : Gap
  /-- The header block. -/
  header : HeaderBlock d.header
  /-- The data block. -/
  data : DataBlock Spells d.values

/-- The bytes of a document laid out. -/
def Rendering.bytes (r : Rendering Spells d) : Bytes :=
  r.lead.bytes ++ (r.header.bytes ++ r.data.bytes)

/-- Nothing that a block may end with starts a data block. -/
theorem DataBlock.detached (b : DataBlock Spells values) : Detached b.bytes := by
  intro x mem
  obtain rfl : 0x40 = x := Option.some.inj mem
  decide

/-- The entries of a `Rendering` are its pairs. -/
theorem scan_rendering (r : Rendering Spells d) (closed : Closed Spells)
    (absent : ∀ p ∈ d.header.wireFields, hasTerminator (Utf8.encode p.2) = false)
    (writable : ∀ n ∈ d.values, Writable n) :
    ∃ entries, List.Forall₂ (fun p e => p.2.Found e) r.data.pairs entries ∧
      scan r.bytes = .ok ⟨d.header.onWire, entries⟩ := by
  obtain ⟨n, header⟩ := r.header.headerPart_bytes r.lead r.data.detached absent
  exact r.data.scan_eq closed writable header

/-- The entries of a `DataBlock` alone are its pairs, too. -/
theorem scan_dataBlock (lead : Gap) (b : DataBlock Spells values) (closed : Closed Spells)
    (writable : ∀ n ∈ values, Writable n) :
    ∃ entries, List.Forall₂ (fun p e => p.2.Found e) b.pairs entries ∧
      scan (lead.bytes ++ b.bytes) = .ok ⟨{}, entries⟩ := by
  have headless (o : Nat) : Cursor.eatAll? Format.headerMark ⟨o, b.bytes⟩ = none := rfl
  have here (o : Nat) : Cursor.skipBlanks ⟨o, b.bytes⟩ = ⟨o, b.bytes⟩ := skipBlanks_mark (.inr rfl)
  have header : headerPart (lead.bytes ++ b.bytes) = .ok (none, ⟨lead.bytes.length, b.bytes⟩) := by
    unfold headerPart
    simp only [Cursor.skipBlanks_gap, here, headless, Nat.zero_add]
  exact b.scan_eq closed writable header

end Data

/-! ## Reading what was laid out -/

section Pairing

variable {α β γ δ : Type} {as : List α} {bs : List β} {cs : List γ}

/-- Two lists that match a third one, by `first` and `second`, match each other. -/
theorem forall₂_of_common {first : α → β → Prop} {second : α → γ → Prop}
    (left : List.Forall₂ first as bs) (right : List.Forall₂ second as cs) :
    List.Forall₂ (fun b c => ∃ a ∈ as, first a b ∧ second a c) bs cs := by
  induction left generalizing cs with
  | nil =>
    cases right
    exact .nil
  | @cons a b as bs here _ ih =>
    cases right with
    | cons here' rest' =>
      refine .cons ⟨a, List.mem_cons_self, here, here'⟩ ((ih rest').imp ?_)
      rintro b c ⟨a, mem, both⟩
      exact ⟨a, List.mem_cons_of_mem _ mem, both⟩

theorem mapM_congr {f : β → Except Fault δ} {g : γ → Except Fault δ}
    (same : List.Forall₂ (fun b c => f b = g c) bs cs) : bs.mapM f = cs.mapM g := by
  induction same with
  | nil => rfl
  | cons here _ ih => rw [List.mapM_cons, List.mapM_cons, here, ih]

end Pairing

section Reading

variable {Spells : Named → Bytes → Prop} {values : List Named} {d : Document} {s : Bytes}
  {read : Kind → Bytes → Except Fault Value}

theorem Entry.Stands.bytes_eq {e : Entry} {n : Named} (stands : e.Stands n) :
    e.value.bytes = payload n := by
  rw [payload, stands.value]
  rfl

/-- The entry `e` of a rendering and the entry `f` of the encoding hold the same value `n`. -/
structure Entry.Corresponds (Spells : Named → Bytes → Prop) (e f : Entry) (n : Named) : Prop where
  writable : Writable n
  name : e.name.bytes = f.name.bytes
  kind : e.kind = n.kind
  kind' : f.kind = n.kind
  spells : Spells n e.value.bytes
  written : f.value.bytes = payload n

/-- The pairs of a data block are found where the values stand in the encoding. -/
theorem DataBlock.corresponds (b : DataBlock Spells values) {entries entries' : List Entry}
    (writable : ∀ n ∈ values, Writable n)
    (found : List.Forall₂ (fun p e => p.2.Found e) b.pairs entries)
    (stand : List.Forall₂ (fun n e => e.Stands n) values entries') :
    List.Forall₂ (fun e f => ∃ n, Entry.Corresponds Spells e f n) entries entries' := by
  obtain ⟨pairs, layout, rfl⟩ := b
  -- an entry of either list belongs to a pair of the block, and both to the same one
  rw [List.forall₂_map_left_iff] at stand
  refine (forall₂_of_common found stand).imp ?_
  rintro e f ⟨p, mem, reads, stands⟩
  exact ⟨p.2.named, writable _ (List.mem_map.2 ⟨p, mem, rfl⟩),
    by rw [reads.name, stands.name], reads.kind, stands.kind, by rw [reads.value]; exact p.2.spells,
    stands.bytes_eq⟩

/-- A reader of values that reads every spelling of `Spells` like the payload of the encoding. -/
def ReadsAlike (Spells : Named → Bytes → Prop) (read : Kind → Bytes → Except Fault Value) : Prop :=
  ∀ n x, Writable n → Spells n x → read n.kind x = read n.kind (payload n)

theorem Entry.Corresponds.read_eq {e f : Entry} {n : Named} (same : Entry.Corresponds Spells e f n)
    (alike : ReadsAlike Spells read) : read e.kind e.value.bytes = read f.kind f.value.bytes := by
  rw [same.kind, same.kind', same.written, alike n _ same.writable same.spells]

/-- A `Rendering` is read like the encoding of the document, if its values are. -/
theorem decodeWith_rendering (r : Rendering Spells d) (written : encode d = .of s)
    (closed : Closed Spells) (alike : ReadsAlike Spells read) :
    decodeWith read r.bytes = decodeWith read s := by
  obtain ⟨absent, writable, rfl⟩ := encode_eq_of_iff.1 written
  obtain ⟨entries, found, scanned⟩ := scan_rendering r closed absent writable
  obtain ⟨entries', stand, scanned'⟩ := scan_document absent writable
  -- the offsets of the entries differ, but readers are not shown them
  have same : entries.mapM (Entry.readWith read) = entries'.mapM (Entry.readWith read) := by
    refine mapM_congr ((r.data.corresponds writable found stand).imp ?_)
    rintro e f ⟨n, corresponds⟩
    rw [Entry.readWith, Entry.readWith, corresponds.name, corresponds.read_eq alike]
  rw [decodeWith, decodeWith, scanned, scanned']
  change Except.bind (entries.mapM _) _ = Except.bind (entries'.mapM _) _
  rw [same]

/-- So are the items of an array. -/
theorem mapM_dataBlock (lead : Gap) (b : DataBlock Spells values)
    (writable : ∀ n ∈ values, Writable n) (closed : Closed Spells)
    (alike : ReadsAlike Spells read) :
    ∃ found found', scan (lead.bytes ++ b.bytes) = .ok found ∧
      scan (dataBytes values) = .ok found' ∧
      (found.entries.mapM fun e => read e.kind e.value.bytes) =
        found'.entries.mapM fun e => read e.kind e.value.bytes := by
  obtain ⟨entries, found, scanned⟩ := scan_dataBlock lead b closed writable
  obtain ⟨entries', stand, scanned'⟩ := scan_dataBytes writable
  refine ⟨_, _, scanned, scanned', mapM_congr ((b.corresponds writable found stand).imp ?_)⟩
  rintro e f ⟨n, corresponds⟩
  exact corresponds.read_eq alike

end Reading

/-! ## Digits of either case -/

/-- The bytes `x` and `y` are the same; for a nested container or array, but for the case of the
hexadecimal digits. -/
def Recased (kind : Kind) (x y : Bytes) : Prop :=
  x = y ∨ (kind = .container ∨ kind = .array) ∧ x.map Bytes.toLower = y.map Bytes.toLower

section Recased

variable {kind : Kind} {x y : Bytes}

/-- Digits of either case are literals. -/
theorem exists_literal_of_toLower (same : x.map Bytes.toLower = (Hex.encode y).map Bytes.toLower) :
    ∃ cs, x = Utf8.encodeChars cs ∧ ∀ c ∈ cs, isLiteral c := by
  have range : ∀ b ∈ x, 0x30 ≤ b.toNat ∧ b.toNat ≤ 0x39 ∨ 0x41 ≤ b.toNat ∧ b.toNat ≤ 0x46 ∨
      0x61 ≤ b.toNat ∧ b.toNat ≤ 0x66 := fun b mem => by
    have lowered := List.mem_map.2 ⟨b, mem, (rfl : Bytes.toLower b = _)⟩
    rw [same, Hex.map_toLower_encode] at lowered
    exact Hex.range_of_toLower_mem_encode lowered
  refine ⟨x.map fun b => Char.ofNat b.toNat, ?_, fun c mem => ?_⟩
  · refine (Utf8.encodeChars_ofNat fun b mem => ?_).symm
    have := range b mem
    omega
  · obtain ⟨b, found, rfl⟩ := List.mem_map.1 mem
    -- the closing bracket, which no literal has, lies between the two cases of letters
    have bounds := range b found
    have code : (Char.ofNat b.toNat).toNat = b.toNat := Utf8.toNat_ofNat (.inl (by omega))
    refine Bool.and_eq_true_iff.2 ⟨Unicode.isGraphic_iff.2 (by omega), ?_⟩
    rw [bne_iff_ne]
    intro bracket
    rw [bracket] at code
    change 0x5D = b.toNat at code
    omega

theorem hasTerminator_of_recased (same : Recased kind x (Hex.encode y)) :
    hasTerminator x = false := by
  rcases same with rfl | ⟨-, same⟩
  · exact hasTerminator_hex y
  · obtain ⟨cs, rfl, literal⟩ := exists_literal_of_toLower same
    exact hasTerminator_encodeChars literal

theorem unhex_of_toLower (same : x.map Bytes.toLower = (Hex.encode y).map Bytes.toLower) :
    unhex kind x = .ok y := by
  have read : Hex.decode x = .ok y :=
    (Hex.decode_eq_ok_iff_of_toLower same).2 (Hex.decode_encode y)
  obtain ⟨cs, rfl, graphic⟩ := exists_literal_of_toLower same
  rw [unhex, literal_encodeChars kind graphic]
  simp only [bind, Except.bind, read]
  rfl

/-- The case of digits does not matter. -/
theorem decodeWithin_recased (same : Recased kind x (Hex.encode y)) (levels : Nat) :
    decodeWithin levels kind x = decodeWithin levels kind (Hex.encode y) := by
  rcases same with rfl | ⟨nested, same⟩
  · rfl
  · cases levels with
    | zero => rfl
    | succ levels =>
      have digits : unhex kind x = unhex kind (Hex.encode y) := by
        rw [unhex_of_toLower same, unhex_encode]
      rcases nested with rfl | rfl <;> rw [decodeWithin, decodeWithin, digits]

end Recased

/-- What the value `n` may be written as: what the encoding has, with digits of either case. -/
def Spelled (n : Named) (x : Bytes) : Prop := Recased n.kind x (payload n)

/-- What a value may be written as when payloads may be laid out freely themselves, for some levels
of nesting. -/
def SpelledWithin : Nat → Named → Bytes → Prop
  | 0, n, x => Spelled n x
  | levels + 1, n, x =>
    match n.value with
    | .container d =>
      ∃ r : Rendering (SpelledWithin levels) d, Recased .container x (Hex.encode r.bytes)
    | .array items =>
      ∃ lead : Gap, ∃ b : DataBlock (SpelledWithin levels) (numbered 0 items),
        Recased .array x (Hex.encode (lead.bytes ++ b.bytes))
    | _ => x = payload n

section Spelled

variable {n : Named} {d : Document} {s : Bytes}

/-- Nested containers and arrays are written as digits. -/
theorem exists_digits_of_nested (writable : Writable n)
    (nested : n.kind = .container ∨ n.kind = .array) : ∃ y, payload n = Hex.encode y := by
  obtain ⟨name, v⟩ := n
  cases v with
  | container d =>
    obtain ⟨y, -, digits⟩ := Draft.wrap_eq_of_iff.1 writable.value
    exact ⟨y, digits⟩
  | array items =>
    obtain ⟨-, digits⟩ := encodeValue_array_iff.1 writable.value
    exact ⟨_, digits⟩
  | _ => rcases nested with eq | eq <;> cases eq

theorem closed_spelledWithin (levels : Nat) : Closed (SpelledWithin levels) := by
  intro n x writable spells
  cases levels with
  | zero =>
    rcases spells with rfl | ⟨nested, same⟩
    · exact hasTerminator_of_encodeValue writable.value
    · obtain ⟨y, digits⟩ := exists_digits_of_nested writable nested
      rw [digits] at same
      exact hasTerminator_of_recased (.inr ⟨nested, same⟩)
  | succ levels =>
    obtain ⟨name, v⟩ := n
    cases v with
    | container d =>
      obtain ⟨r, same⟩ := spells
      exact hasTerminator_of_recased same
    | array items =>
      obtain ⟨lead, b, same⟩ := spells
      exact hasTerminator_of_recased same
    | _ =>
      obtain rfl : x = payload _ := spells
      exact hasTerminator_of_encodeValue writable.value

/-- Every spelling within `levels` is read like the payload of the encoding, whatever `allowance` is
left for it. -/
theorem readsAlike (levels allowance : Nat) :
    ReadsAlike (SpelledWithin levels) (decodeWithin allowance) := by
  -- a payload that is a rendering itself holds values with one level less that is laid out freely
  induction levels generalizing allowance with
  | zero =>
    rintro n x writable (rfl | ⟨nested, same⟩)
    · rfl
    · obtain ⟨y, digits⟩ := exists_digits_of_nested writable nested
      rw [digits] at same ⊢
      exact decodeWithin_recased (.inr ⟨nested, same⟩) allowance
  | succ levels ih =>
    intro n x writable spells
    obtain ⟨name, v⟩ := n
    cases v with
    | container d =>
      obtain ⟨r, same⟩ := spells
      obtain ⟨y, inner, digits⟩ := Draft.wrap_eq_of_iff.1 writable.value
      change decodeWithin allowance .container x = decodeWithin allowance .container _
      rw [digits, decodeWithin_recased same]
      cases allowance with
      | zero => rfl
      | succ allowance =>
        rw [decodeWithin_container, decodeWithin_container,
          decodeWith_rendering r inner (closed_spelledWithin levels) (ih allowance)]
    | array items =>
      obtain ⟨lead, b, same⟩ := spells
      obtain ⟨inside, digits⟩ := encodeValue_array_iff.1 writable.value
      change decodeWithin allowance .array x = decodeWithin allowance .array _
      rw [digits, decodeWithin_recased same]
      cases allowance with
      | zero => rfl
      | succ allowance =>
        obtain ⟨found, found', scanned, scanned', alike⟩ :=
          mapM_dataBlock lead b inside (closed_spelledWithin levels) (ih allowance)
        rw [decodeWithin_array scanned, decodeWithin_array scanned', alike]
    | _ =>
      obtain rfl : x = payload _ := spells
      rfl

/-- A document decodes like its encoding `s` however it is laid out, even inside nested payloads. -/
theorem decode_nestedRendering (levels : Nat) (written : Codec.encode .text d = .ok s)
    (r : Rendering (SpelledWithin levels) d) :
    Codec.decode .text r.bytes = Codec.decode .text s :=
  congrArg (Except.mapError Fault.error) (decodeWith_rendering r (Draft.finish_eq_ok_iff.1 written)
    (closed_spelledWithin levels) (readsAlike levels (levelsAt 0)))

/-- Two entries list the same name, the same kind, and the same bytes but for the case of digits. -/
structure Entry.Agrees (e f : Entry) : Prop where
  name : e.name.bytes = f.name.bytes
  kind : e.kind = f.kind
  value : Recased e.kind e.value.bytes f.value.bytes

/-- A document decodes like its encoding `s` however it is laid out; in particular it reads back if
no value sits deeper than `depthLimit`. The index of the one lists what the index of the other does.
-/
theorem decode_rendering (written : Codec.encode .text d = .ok s) (r : Rendering Spelled d) :
    Codec.decode .text r.bytes = Codec.decode .text s ∧
      ((∀ depth, d.Reaches depth → depth ≤ Document.depthLimit) →
        Codec.decode .text r.bytes = .ok d.received) ∧
      ∃ entries entries', index r.bytes = .ok entries ∧ index s = .ok entries' ∧
        List.Forall₂ Entry.Agrees entries entries' := by
  have draft : encode d = .of s := Draft.finish_eq_ok_iff.1 written
  have same : Codec.decode .text r.bytes = Codec.decode .text s :=
    decode_nestedRendering 0 written r
  refine ⟨same, fun within => ?_, ?_⟩
  · have inside := Document.within_iff.1 fun depth reaches =>
      Nat.lt_succ_of_le (within depth reaches)
    have read := decodeWith_eq_ok (readsWithin (levelsAt 0)) draft inside
    rw [same]
    exact congrArg (Except.mapError Fault.error) read
  · -- the scan finds the same values in both texts, each in its own spelling
    obtain ⟨absent, writable, rfl⟩ := encode_eq_of_iff.1 draft
    obtain ⟨entries, found, scanned⟩ :=
      scan_rendering r (closed_spelledWithin 0) absent writable
    obtain ⟨entries', stand, scanned'⟩ := scan_document absent writable
    refine ⟨entries, entries', by rw [index, scanned]; rfl, by rw [index, scanned']; rfl, ?_⟩
    refine (r.data.corresponds writable found stand).imp ?_
    rintro e f ⟨n, corresponds⟩
    have spells : Recased n.kind e.value.bytes (payload n) := corresponds.spells
    exact ⟨corresponds.name, by rw [corresponds.kind, corresponds.kind'],
      by rw [corresponds.kind, corresponds.written]; exact spells⟩

end Spelled

/-! ## A loose rendering -/

/-- No white space. -/
def Gap.none : Gap := ⟨[], rfl⟩

/-- One space. -/
def Gap.space : Gap := ⟨[0x20], rfl⟩

/-- A line feed. -/
def Gap.newline : Gap := ⟨[0x0A], rfl⟩

/-- A document with spaces in a name and a text, and a nested payload. -/
def paddedDocument : Document := ⟨{}, [⟨" s", .string "x "⟩, ⟨"a", .array [.bytes [0xAB]]⟩]⟩

/-- The document with white space, an identifier that names no field, the fields in another order,
braces that are single or doubled, no semicolon after a block, and digits of either case. -/
def loose : Rendering Spelled paddedDocument where
  lead := .space
  header :=
    { pairs := [(.newline, .known .space .version .none "1.0"),
        (.none, .unknown "x" "?" (by decide) (by decide) (by decide)),
        (.space, .known .none .messageType .space "data_container")]
      layout := ⟨.space, .none, false, .space, true, .newline, false, .newline⟩
      complete := by decide }
  data :=
    { pairs := [(.none, ⟨⟨" s", .string "x "⟩, .space, .space, Utf8.encode "x ", .inl (by decide)⟩),
        (.newline, ⟨⟨"a", .array [.bytes [0xAB]]⟩, .none, .space,
          Utf8.encode "40646174613d7B7B5B302C31332CAB5D3B7D7D3B", .inr ⟨.inr rfl, by decide⟩⟩)]
      layout := ⟨.none, .space, true, .none, false, .space, true, .none⟩
      complete := rfl }

theorem decode_rendering_loose :
    loose.bytes = Utf8.encode
        (" @header =\x7b\n[ 6,1.0];[x,?]; [5 ,data_container]; \x7d\x7d\n\n" ++
          "@data= \x7b\x7b[ s, 12 ,x ];\n" ++
            "[a,15 ,40646174613d7B7B5B302C31332CAB5D3B7D7D3B];\x7d ;") ∧
      Codec.encode .text paddedDocument =
        .ok (headerBytes paddedDocument.header ++ dataBytes paddedDocument.values) ∧
      Codec.decode .text loose.bytes = .ok paddedDocument.received := by
  have written : Codec.encode .text paddedDocument =
      .ok (headerBytes paddedDocument.header ++ dataBytes paddedDocument.values) := by
    decide +kernel
  refine ⟨by decide +kernel, written, (decode_rendering written loose).2.1 fun depth reaches => ?_⟩
  refine Nat.le_of_lt_succ (Document.within_iff.2 (fun n mem => ?_) depth reaches)
  rcases List.mem_cons.1 mem with rfl | mem
  · exact Value.within_succ_of_flat ⟨by decide, by decide⟩
  · obtain rfl := List.mem_singleton.1 mem
    refine Value.within_array_iff.2 fun v mem => ?_
    obtain rfl := List.mem_singleton.1 mem
    exact Value.within_succ_of_flat ⟨by decide, by decide⟩

end Parcel.Delimited
