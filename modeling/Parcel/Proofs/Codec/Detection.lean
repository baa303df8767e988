import Parcel.Container.Transfer
import Parcel.Proofs.Container.Change
import Parcel.Proofs.Delimited.Accepted
import Parcel.Proofs.Unicode.Blank
import Parcel.Proofs.Unicode.Utf8

/-!
# Recognising what a codec accepts

The format of an input is recognised by its first byte, or by the first one after ASCII white
space. Each codec has its own notion of what may stand in front of a document: nothing in
MessagePack, ASCII white space in the delimited text, a part of it in JSON, and any white space of
Unicode in XML. So whatever a codec accepts is recognised as its format, except for XML behind
white space that is not ASCII: that is accepted as XML and recognised as nothing.

## Main definitions

* `Bytes.IsVeiled` — an input that starts with white space beyond ASCII

## Main results

* `Format.detect?_of_isVeiled` — such an input is recognised as nothing
* `Codec.detect?_of_decode` — every other input that a codec accepts is recognised
* `Codec.recognition` — which inputs are accepted, recognised and taken over
* `Codec.decode_veiledElement` — an input that is accepted and not recognised
-/

namespace Parcel

variable {s : Bytes} {f g : Format} {d e : Document}

/-! ## White space in front -/

/-- What is left in front of the byte `x`, which both `p` and `q` leave standing, does not depend on
which of them is dropped. -/
theorem dropWhile_eq_of_imp {α : Type} {p q : α → Bool} {x : α} {xs rest : List α}
    (imp : ∀ a, p a → q a) (stays : q x = false) (dropped : xs.dropWhile p = x :: rest) :
    xs.dropWhile q = x :: rest := by
  induction xs with
  | nil => cases dropped
  | cons a xs ih =>
    by_cases drops : p a
    · rw [List.dropWhile_cons_of_pos drops] at dropped
      rw [List.dropWhile_cons_of_pos (imp a drops), ih dropped]
    · rw [List.dropWhile_cons_of_neg drops] at dropped
      obtain ⟨rfl, rfl⟩ := List.cons.inj dropped
      exact List.dropWhile_cons_of_neg (by rw [stays]; decide)

/-- White space has been skipped up to a byte that is none. -/
theorem Bytes.isBlank_of_skipBlanks {b : UInt8} {rest : Bytes}
    (starts : Bytes.skipBlanks s = b :: rest) : Bytes.isBlank b = false := by
  have first := List.head?_dropWhile_not Bytes.isBlank s
  rw [← Bytes.skipBlanks, starts] at first
  exact first

/-- After ASCII white space, the input starts with white space that is not ASCII, or is one of the
ASCII control characters that not every notion of white space includes. -/
def Bytes.IsVeiled (s : Bytes) : Prop :=
  ∃ c rest, Unicode.isBlank c ∧ Bytes.skipBlanks s = String.utf8EncodeChar c ++ rest

namespace Format

/-- A byte that stands for itself after white space and starts no format. -/
def opensNothing (b : UInt8) : Bool :=
  !Bytes.isBlank b && !isMapMarker b && b != Bytes.ofChar '\x7b' && b != Bytes.ofChar '[' &&
    b != Bytes.ofChar '<' && b != Bytes.ofChar '@'

theorem isBlank_of_opensNothing {b : UInt8} (opens : opensNothing b) : Bytes.isBlank b = false := by
  simp only [opensNothing, Bool.and_eq_true, Bool.not_eq_true'] at opens
  exact opens.1.1.1.1.1

/-- White space is ASCII white space, or its first byte `opensNothing`. -/
theorem isBlank_or_opensNothing {c : Char} (blank : Unicode.isBlank c) :
    (∃ b, Bytes.isBlank b ∧ String.utf8EncodeChar c = [b]) ∨
      ∃ b more, opensNothing b ∧ String.utf8EncodeChar c = b :: more := by
  by_cases wide : 0x80 ≤ c.toNat
  · -- beyond ASCII there are only so many characters to look at
    have leads : ∀ n ∈ Unicode.wideBlanks,
        (String.utf8EncodeChar (Char.ofNat n)).head?.any opensNothing := by decide
    have first := leads c.toNat (Unicode.mem_wideBlanks wide blank)
    rw [Char.ofNat_toNat] at first
    cases encoded : String.utf8EncodeChar c with
    | nil => rw [encoded] at first; cases first
    | cons b more =>
      rw [encoded] at first
      exact .inr ⟨b, more, first, rfl⟩
  · have narrow : c.toNat ∈ [0x09, 0x0A, 0x0B, 0x0C, 0x0D, 0x20] := by
      simp only [Unicode.isBlank, Bool.or_eq_true, Bool.and_eq_true, decide_eq_true_eq,
        beq_iff_eq] at blank
      simp only [List.mem_cons, List.not_mem_nil, or_false]
      omega
    have single : ∀ n ∈ [0x09, 0x0A, 0x0B, 0x0C, 0x0D, 0x20],
        String.utf8EncodeChar (Char.ofNat n) = [n.toUInt8] ∧
          (Bytes.isBlank n.toUInt8 || opensNothing n.toUInt8) := by decide
    obtain ⟨encoded, known⟩ := single c.toNat narrow
    rw [Char.ofNat_toNat] at encoded
    rcases Bool.or_eq_true_iff.1 known with ascii | other
    · exact .inl ⟨_, ascii, encoded⟩
    · exact .inr ⟨_, [], other, encoded⟩

theorem detect?_of_opensNothing {b : UInt8} {rest : Bytes} (opens : opensNothing b)
    (starts : Bytes.skipBlanks s = b :: rest) : detect? s = none := by
  simp only [opensNothing, Bool.and_eq_true, Bool.not_eq_true', bne_iff_ne] at opens
  obtain ⟨⟨⟨⟨⟨-, noMap⟩, noObject⟩, noArray⟩, noElement⟩, noMark⟩ := opens
  have unmarked : ¬(headerMark.isPrefixOf (b :: rest) ∨ dataMark.isPrefixOf (b :: rest)) := by
    intro mark
    obtain ⟨_, marked⟩ := Delimited.exists_cons_of_isPrefixOf mark
    exact noMark (List.cons.inj marked).1
  rw [Delimited.detect?_eq_detectTextual? noMap starts, detectTextual?,
    if_neg (not_or.2 ⟨noObject, noArray⟩), if_neg noElement, if_neg unmarked]

/-- White space beyond ASCII hides what follows it from `detect?`. -/
theorem detect?_of_isVeiled (veiled : s.IsVeiled) : detect? s = none := by
  obtain ⟨c, rest, blank, starts⟩ := veiled
  obtain ⟨b, ascii, encoded⟩ | ⟨b, more, opens, encoded⟩ := isBlank_or_opensNothing blank
  · -- ASCII white space has been skipped
    rw [encoded] at starts
    rw [Bytes.isBlank_of_skipBlanks starts] at ascii
    cases ascii
  · rw [encoded, List.cons_append] at starts
    exact detect?_of_opensNothing opens starts

end Format

/-! ## What the codecs accept -/

/-- An accepted text starts with one of the marks. -/
theorem Delimited.detect?_of_decode (decoded : Delimited.decode s = .ok d) :
    Format.detect? s = some .text := by
  obtain ⟨entries, scanned, -⟩ := Delimited.exists_scan_of_decode decoded
  exact Delimited.detect?_of_scan scanned

/-- An object is read after an opening brace. -/
theorem Json.exists_of_value?_object {members : List Json.Member} {rest : Bytes}
    (read : Json.value? s = some (.object members, rest)) :
    ∃ more, Json.skipSpace s = Bytes.ofChar '\x7b' :: more := by
  rw [Json.value?, Json.valueWithin] at read
  -- one case for each byte that a value can start with
  split at read
  case h_6 more starts => exact ⟨more, starts⟩
  all_goals try cases read
  · obtain ⟨_, -, same⟩ := Option.map_eq_some_iff.1 read
    cases same
  · split at read
    · cases read
    · obtain ⟨_, -, same⟩ := Option.map_eq_some_iff.1 read
      cases same
  · obtain ⟨_, -, same⟩ := Option.map_eq_some_iff.1 read
    cases same

/-- White space of JSON is ASCII white space. -/
theorem Json.isBlank_of_isSpace {b : UInt8} (space : Json.isSpace b) : Bytes.isBlank b := by
  simp only [Json.isSpace, Bool.or_eq_true] at space
  simp only [Bytes.isBlank, Bool.or_eq_true]
  tauto

theorem Json.exists_of_decode? (decoded : Json.decode? s = some d) :
    ∃ more, Bytes.skipBlanks s = Bytes.ofChar '\x7b' :: more := by
  obtain ⟨tree, parsed, isObject⟩ := Option.bind_eq_some_iff.1 decoded
  obtain ⟨⟨found, rest⟩, read, ends⟩ := Option.bind_eq_some_iff.1 parsed
  dsimp only at ends
  split at ends
  · cases ends
    cases tree with
    | object members =>
      obtain ⟨more, starts⟩ := Json.exists_of_value?_object read
      exact ⟨more, dropWhile_eq_of_imp (fun _ => Json.isBlank_of_isSpace) (by decide) starts⟩
    | _ => cases isObject
  · cases ends

/-- An accepted JSON text starts with an opening brace. -/
theorem Json.detect?_of_decode? (decoded : Json.decode? s = some d) :
    Format.detect? s = some .json := by
  obtain ⟨more, starts⟩ := Json.exists_of_decode? decoded
  rw [Delimited.detect?_eq_detectTextual? (by decide) starts, Format.detectTextual?,
    if_pos (.inl rfl)]

/-- A marker with a number behind it, as `counted` reads it, says what the number is wrapped in. -/
theorem MessagePack.exists_of_counted {width : Nat} {make : Nat → MessagePack.Head}
    {more rest : Bytes} {h : MessagePack.Head}
    (read : MessagePack.counted width make more = some (h, rest)) : ∃ k, make k = h := by
  obtain ⟨digits, -, same⟩ := Option.map_eq_some_iff.1 read
  exact ⟨_, congrArg Prod.fst same⟩

theorem MessagePack.exists_of_signed {width : Nat} {more rest : Bytes} {h : MessagePack.Head}
    (read : MessagePack.signed width more = some (h, rest)) : ∃ k, .integer k false = h := by
  obtain ⟨digits, -, same⟩ := Option.map_eq_some_iff.1 read
  exact ⟨_, congrArg Prod.fst same⟩

/-- A number of entries follows the marker of a map. -/
theorem MessagePack.isMapMarker_of_head? {b : UInt8} {n : Nat} {more rest : Bytes}
    (read : MessagePack.head? (b :: more) = some (.map n, rest)) : Format.isMapMarker b := by
  unfold MessagePack.head? at read
  dsimp only at read
  by_cases natural : b < 0x80
  · rw [if_pos natural] at read
    cases read
  rw [if_neg natural] at read
  by_cases short : b < 0x90
  · -- the number of entries is a part of the marker
    simp only [Format.isMapMarker, Bool.or_eq_true, Bool.and_eq_true, decide_eq_true_eq]
    rw [UInt8.lt_iff_toNat_lt] at natural short
    rw [UInt8.le_iff_toNat_le, UInt8.le_iff_toNat_le]
    exact .inl (.inl ⟨Nat.not_lt.1 natural, Nat.le_of_lt_succ short⟩)
  rw [if_neg short] at read
  split_ifs at read
  · cases read
  · cases read
  · cases read
  · -- two of the markers beyond the ranges are those of a map with its number of entries after it
    split at read
    case h_30 | h_31 => rfl
    case h_16 | h_17 | h_18 | h_19 =>
      obtain ⟨k, same⟩ := MessagePack.exists_of_signed read
      cases same
    all_goals first
      | cases read
      | obtain ⟨k, same⟩ := MessagePack.exists_of_counted read
        cases same

/-- An accepted MessagePack input starts with the marker of a map. -/
theorem MessagePack.detect?_of_decode (decoded : MessagePack.decode s = .ok d) :
    Format.detect? s = some .msgpack := by
  obtain ⟨⟨head, rest⟩, first, more⟩ := Except.exists_of_bind_eq_ok decoded
  cases s with
  | nil => cases first
  | cons b s =>
    cases found : MessagePack.head? (b :: s) with
    | none => rw [found] at first; cases first
    | some p =>
      rw [found] at first
      cases first
      cases head with
      | map n => rw [Format.detect?, if_pos (MessagePack.isMapMarker_of_head? found)]
      | _ => cases more

/-! ### XML -/

namespace Xml

theorem exists_of_isPrefixOf {mark cs : List Char} {c : Char} (opens : mark.head? = some c)
    (marked : mark.isPrefixOf cs) : ∃ more, cs = c :: more := by
  obtain ⟨rest, rfl⟩ := List.isPrefixOf_iff_prefix.1 marked
  cases mark with
  | nil => cases opens
  | cons a mark =>
    cases opens
    exact ⟨mark ++ rest, rfl⟩

/-- A start tag starts with an opening angle bracket. -/
theorem exists_of_startTag {c : Cursor} {r : String × Bool × Cursor} (read : startTag c = .ok r) :
    ∃ more, c.rest = '<' :: more := by
  rw [startTag] at read
  cases eaten : c.eat? ['<'] with
  | none => rw [eaten] at read; cases read
  | some next =>
    obtain ⟨more, here, -⟩ := Option.map_eq_some_iff.1 eaten
    exact ⟨more, (List.isPrefixOf?_eq_some_iff_append_eq.1 here).symm⟩

theorem exists_of_element {c : Cursor} {r : Element × Cursor} (read : element c = .ok r) :
    ∃ more, c.rest = '<' :: more := by
  rw [element, elementWithin] at read
  split at read
  · cases read
  · obtain ⟨tag, first, -⟩ := Except.exists_of_bind_eq_ok read
    exact exists_of_startTag first

/-- What is skipped before an element is white space up to an opening angle bracket. -/
theorem exists_of_skipMisc {c c' : Cursor} (skipped : skipMisc c = .ok c') :
    (∃ more, c.skipBlanks.rest = '<' :: more) ∨ c' = c.skipBlanks := by
  rw [skipMisc, skipMiscWithin] at skipped
  split at skipped
  · next comment => exact .inl (exists_of_isPrefixOf rfl comment)
  · split at skipped
    · next instruction => exact .inl (exists_of_isPrefixOf rfl instruction)
    · exact .inr (Except.ok.inj skipped).symm

/-- The first character of an XML text that is no white space is an opening angle bracket. -/
theorem exists_of_parseText {cs : List Char} {root : Element} (parsed : parseText cs = .ok root) :
    ∃ more, cs.dropWhile Unicode.isBlank = '<' :: more := by
  obtain ⟨start, prolog, rest⟩ := Except.exists_of_bind_eq_ok parsed
  obtain ⟨⟨found, last⟩, read, -⟩ := Except.exists_of_bind_eq_ok rest
  obtain ⟨c, misc, doctype⟩ := Except.exists_of_bind_eq_ok prolog
  rcases exists_of_skipMisc misc with opens | rfl
  · exact opens
  · split at doctype
    · next marked => exact exists_of_isPrefixOf rfl marked
    · cases doctype
      exact exists_of_element read

/-- White space in front of an opening angle bracket is ASCII white space, or the whole `IsVeiled`.
-/
theorem starts_or_isVeiled {blanks rest : List Char} (blank : ∀ c ∈ blanks, Unicode.isBlank c) :
    (∃ more, Bytes.skipBlanks (Utf8.encodeChars (blanks ++ '<' :: rest)) =
        Bytes.ofChar '<' :: more) ∨
      (Utf8.encodeChars (blanks ++ '<' :: rest)).IsVeiled := by
  induction blanks with
  | nil => exact .inl ⟨Utf8.encodeChars rest, rfl⟩
  | cons c blanks ih =>
    rw [List.cons_append, Utf8.encodeChars_cons]
    obtain ⟨b, ascii, encoded⟩ | ⟨b, more, opens, encoded⟩ :=
      Format.isBlank_or_opensNothing (blank c List.mem_cons_self)
    · have skipped (y : Bytes) : Bytes.skipBlanks ([b] ++ y) = Bytes.skipBlanks y :=
        List.dropWhile_cons_of_pos ascii
      rw [encoded, Bytes.IsVeiled, skipped]
      exact ih fun d mem => blank d (List.mem_cons_of_mem c mem)
    · right
      refine ⟨c, Utf8.encodeChars (blanks ++ '<' :: rest), blank c List.mem_cons_self, ?_⟩
      rw [encoded, List.cons_append]
      exact List.dropWhile_cons_of_neg (by rw [Format.isBlank_of_opensNothing opens]; decide)

/-- Accepted XML is recognised, unless white space beyond ASCII hides it. -/
theorem detect?_of_decode (decoded : Xml.decode s = .ok d) :
    Format.detect? s = some .xml ∨ s.IsVeiled := by
  obtain ⟨root, parsed, -⟩ := Except.exists_of_bind_eq_ok decoded
  obtain ⟨cs, read, parsed⟩ := Except.exists_of_bind_eq_ok parsed
  have read := Except.eq_ok_of_mapError_eq_ok read
  obtain ⟨more, opens⟩ := exists_of_parseText parsed
  have written : s = Utf8.encodeChars (cs.takeWhile Unicode.isBlank ++ '<' :: more) := by
    rw [← opens, List.takeWhile_append_dropWhile]
    exact Utf8.encodeChars_of_decodeFrom s read
  rw [written]
  refine (starts_or_isVeiled fun c mem => List.all_eq_true.1 List.all_takeWhile c mem).imp_left ?_
  rintro ⟨rest, starts⟩
  rw [Delimited.detect?_eq_detectTextual? (by decide) starts]
  rfl

end Xml

/-! ## Accepted and recognised -/

namespace Codec

/-- An input that `decode f` accepts is detected as `f`, unless it is XML that `IsVeiled`. -/
theorem detect?_of_decode (decoded : Codec.decode f s = .ok d) :
    Format.detect? s = some f ∨ f = .xml ∧ s.IsVeiled := by
  cases f with
  | text =>
    have read := Except.eq_ok_of_mapError_eq_ok decoded
    exact .inl (Delimited.detect?_of_decode read)
  | json => exact .inl (Json.detect?_of_decode? (decode_json_eq_ok_iff.1 decoded))
  | xml =>
    have read := Except.eq_ok_of_mapError_eq_ok decoded
    exact (Xml.detect?_of_decode read).imp_right (⟨rfl, ·⟩)
  | msgpack =>
    have read := Except.eq_ok_of_mapError_eq_ok decoded
    exact .inl (MessagePack.detect?_of_decode read)

/-- An accepted input is detected unless it `IsVeiled`. -/
theorem detect?_of_not_isVeiled (decoded : Codec.decode f s = .ok d) (bare : ¬s.IsVeiled) :
    Format.detect? s = some f :=
  (detect?_of_decode decoded).resolve_right fun hidden => bare hidden.2

/-- No input is a document in two formats. -/
theorem format_unique (decoded : Codec.decode f s = .ok d) (decoded' : Codec.decode g s = .ok e) :
    f = g := by
  by_cases veiled : s.IsVeiled
  · -- only XML is accepted although nothing is recognised
    have onlyXml {f : Format} {d : Document} (decoded : Codec.decode f s = .ok d) : f = .xml := by
      rcases detect?_of_decode decoded with found | hidden
      · rw [Format.detect?_of_isVeiled veiled] at found
        cases found
      · exact hidden.1
    rw [onlyXml decoded, onlyXml decoded']
  · have found := detect?_of_not_isVeiled decoded veiled
    rw [detect?_of_not_isVeiled decoded' veiled] at found
    exact (Option.some.inj found).symm

theorem decodeAny_eq_ok_iff :
    decodeAny s = .ok (f, d) ↔ Format.detect? s = some f ∧ decode f s = .ok d := by
  rw [decodeAny]
  constructor
  · intro decoded
    cases found : Format.detect? s with
    | none => rw [found] at decoded; cases decoded
    | some g =>
      rw [found] at decoded
      obtain ⟨e, read, same⟩ := Except.exists_of_map_eq_ok decoded
      cases same
      exact ⟨rfl, read⟩
  · rintro ⟨found, read⟩
    rw [found]
    change (decode f s).map (f, ·) = _
    rw [read]
    rfl

/-- `Container.deserialize` takes over exactly the inputs that are within `maxBytes`, detected, and
accepted by the codec of the format that was detected. -/
theorem deserialize_eq_ok_iff {c : Container} :
    (c.deserialize s).1 = .ok () ↔
      s.length ≤ c.config.maxBytes ∧ ∃ f d, Format.detect? s = some f ∧ decode f s = .ok d := by
  rw [Container.deserialize]
  cases found : Format.detect? s with
  | none =>
    constructor
    · intro accepted
      cases accepted
    · rintro ⟨-, f, d, other, -⟩
      cases other
  | some f =>
    rw [← Container.checkSize_eq_ok_iff]
    change (c.deserializeAs s f).1 = _ ↔ _
    constructor
    · intro accepted
      obtain ⟨e, refused⟩ | ⟨d, small, decoded, -⟩ := Container.deserializeAs_cases s f c
      · rw [refused] at accepted
        cases accepted
      · exact ⟨small, f, d, rfl, decoded⟩
    · rintro ⟨small, g, d, same, decoded⟩
      cases same
      rw [Container.deserializeAs, small]
      simp only [bind, Except.bind, decoded]

/-- At most one codec accepts an input. An accepted input is detected, decoded and taken over as
that codec decodes it, unless it `IsVeiled`; then it is XML, and it is detected as nothing. -/
theorem recognition (s : Bytes) :
    (∀ f g d e, decode f s = .ok d → decode g s = .ok e → f = g) ∧
      (∀ f d, decode f s = .ok d → ¬s.IsVeiled → Format.detect? s = some f) ∧
      (∀ f d, decode f s = .ok d → s.IsVeiled → f = .xml ∧ Format.detect? s = none) ∧
      (∀ f d, decodeAny s = .ok (f, d) ↔ ¬s.IsVeiled ∧ decode f s = .ok d) ∧
      ∀ c : Container, (c.deserialize s).1 = .ok () ↔
        s.length ≤ c.config.maxBytes ∧ ¬s.IsVeiled ∧ ∃ f d, decode f s = .ok d := by
  have recognised {f : Format} {d : Document} :
      Format.detect? s = some f ∧ decode f s = .ok d ↔ ¬s.IsVeiled ∧ decode f s = .ok d := by
    constructor
    · rintro ⟨found, decoded⟩
      refine ⟨fun veiled => ?_, decoded⟩
      rw [Format.detect?_of_isVeiled veiled] at found
      cases found
    · rintro ⟨bare, decoded⟩
      exact ⟨detect?_of_not_isVeiled decoded bare, decoded⟩
  refine ⟨fun f g d e => format_unique, fun f d => detect?_of_not_isVeiled, ?_, ?_, ?_⟩
  · intro f d decoded veiled
    have hidden := Format.detect?_of_isVeiled veiled
    refine ⟨?_, hidden⟩
    -- only the XML reader skips more space than detection does
    rcases detect?_of_decode decoded with found | xml
    · rw [hidden] at found
      cases found
    · exact xml.1
  · intro f d
    rw [decodeAny_eq_ok_iff, recognised]
  · intro c
    simp only [deserialize_eq_ok_iff, recognised, exists_and_left]

/-- An empty element behind a vertical tab. -/
def veiledElement : Bytes := 0x0B :: Utf8.encode "<container/>"

/-- The input is XML, and yet `deserialize` on a new container refuses it. -/
theorem recognition_veiledElement :
    (∃ d, decode .xml veiledElement = .ok d) ∧ veiledElement.IsVeiled ∧
      ((Container.new .linear).deserialize veiledElement).1 ≠ .ok () := by
  have read : (decode .xml veiledElement).map (·.header) = .ok {} := by decide +kernel
  obtain ⟨d, decoded, -⟩ := Except.exists_of_map_eq_ok read
  have veiled : veiledElement.IsVeiled :=
    ⟨Char.ofNat 0x0B, Utf8.encode "<container/>", by decide, by decide +kernel⟩
  obtain ⟨-, -, -, -, taken⟩ := recognition veiledElement
  refine ⟨⟨d, decoded⟩, veiled, ?_⟩
  rw [Ne, taken]
  exact fun accepted => accepted.2.1 veiled

/-- What `decode` accepts is not always what `detect?` says it is. -/
theorem decode_veiledElement :
    (∃ d, decode .xml veiledElement = .ok d) ∧ Format.detect? veiledElement = none ∧
      ∀ d, decodeAny veiledElement ≠ .ok (.xml, d) := by
  have read : (decode .xml veiledElement).map (·.header) = .ok {} := by decide +kernel
  have unrecognised : Format.detect? veiledElement = none := by decide +kernel
  obtain ⟨d, decoded, -⟩ := Except.exists_of_map_eq_ok read
  refine ⟨⟨d, decoded⟩, unrecognised, fun e => ?_⟩
  rw [Ne, decodeAny_eq_ok_iff, unrecognised]
  exact fun accepted => nomatch accepted.1

end Codec

end Parcel
