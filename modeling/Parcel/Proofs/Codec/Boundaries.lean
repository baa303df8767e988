import Parcel.Proofs.Delimited.RoundTrip
import Parcel.Proofs.Json.Extension
import Parcel.Proofs.MessagePack.Extension
import Parcel.Proofs.Xml.Extension
import Parcel.Proofs.Xml.Writing

/-!
# Where a document ends

A document in JSON, XML or MessagePack tells where it ends, so none of its first parts is read as a
document. The delimited text does not: its last block and its last brackets may be left out. Behind
a document the readers of the delimited text, of JSON and of XML look for more and refuse it; the
reader of MessagePack does not look, and drops whatever is there.

## Main definitions

* `Bytes.isAlphanum` — ASCII letters and digits

## Main results

* `Codec.exists_of_decode_eq_error` — every refusal says that reading has failed
* `Codec.decode_truncated` — a document that is cut short is refused
* `Codec.decode_trailed` — a document with more behind it is refused, except in MessagePack
* `Codec.decode_trailedPack` — bytes behind a document that are dropped
-/

namespace Parcel

/-- Whether a byte is an ASCII letter or digit. -/
def Bytes.isAlphanum (b : UInt8) : Bool :=
  (0x30 ≤ b && b ≤ 0x39) || (0x41 ≤ b && b ≤ 0x5A) || (0x61 ≤ b && b ≤ 0x7A)

namespace Codec

variable {f : Format} {d e : Document} {b s p q : Bytes}

/-- A refusal that `mapError` only rewords is one of those that come out of `reword`. -/
theorem exists_of_mapError_eq_error {α ε ε' : Type} {r : Except ε α} {reword : ε → ε'} {e : ε'}
    (refused : r.mapError reword = .error e) : ∃ fault, reword fault = e := by
  cases r with
  | error fault =>
    cases refused
    exact ⟨fault, rfl⟩
  | ok a => cases refused

/-- Every refusal of `decode` is a `deserializationFailed`. -/
theorem exists_of_decode_eq_error {e : Error} (refused : decode f s = .error e) :
    ∃ reason, e = .deserializationFailed reason := by
  cases f with
  | text =>
    obtain ⟨fault, rfl⟩ := exists_of_mapError_eq_error refused
    exact ⟨fault.message, rfl⟩
  | json =>
    rw [decode] at refused
    split at refused
    · cases refused
    · cases refused
      exact ⟨_, rfl⟩
  | xml =>
    obtain ⟨fault, rfl⟩ := exists_of_mapError_eq_error refused
    exact ⟨fault.message, rfl⟩
  | msgpack =>
    obtain ⟨fault, rfl⟩ := exists_of_mapError_eq_error refused
    exact ⟨messagePackReason s fault, rfl⟩

/-! ## The end of a document -/

/-- When `p` is read as a document, nothing is missing at its end: the rest `q` of the encoding is
empty. -/
theorem eq_nil_of_decode (other : f ≠ .text)
    (short : f = .msgpack → ∀ n ∈ MessagePack.lengths d, n < 2 ^ 32)
    (written : encode f d = .ok (p ++ q)) (decoded : decode f p = .ok e) : q = [] := by
  have draft := Draft.finish_eq_ok_iff.1 written
  cases f with
  | text => exact absurd rfl other
  | json =>
    exact Json.eq_nil_of_decode? (Draft.of_injective draft) (decode_json_eq_ok_iff.1 decoded)
  | xml =>
    obtain ⟨proper, whole⟩ := Xml.encode_eq_of_iff.1 draft
    obtain ⟨root, parsed, -⟩ :=
      Except.exists_of_bind_eq_ok (Except.eq_ok_of_mapError_eq_ok decoded)
    exact Xml.eq_nil_of_parse proper whole.symm parsed
  | msgpack =>
    exact MessagePack.eq_nil_of_decode (short rfl) (Draft.of_injective draft)
      (Except.eq_ok_of_mapError_eq_ok decoded)

/-- A document in JSON, XML or MessagePack that is cut short anywhere, with `q` left off, is
refused. For MessagePack the `lengths` have to fit in four bytes. -/
theorem decode_truncated (other : f ≠ .text)
    (short : f = .msgpack → ∀ n ∈ MessagePack.lengths d, n < 2 ^ 32)
    (written : encode f d = .ok (p ++ q)) (cut : q ≠ []) :
    ∃ reason, decode f p = .error (.deserializationFailed reason) := by
  cases decoded : decode f p with
  | error e =>
    obtain ⟨reason, rfl⟩ := exists_of_decode_eq_error decoded
    exact ⟨reason, rfl⟩
  | ok e => exact absurd (eq_nil_of_decode other short written decoded) cut

/-- A document with a container in an array, cut inside of it. -/
theorem decode_truncated_mixedDocument :
    ∃ p q, encode .msgpack MessagePack.mixedDocument = .ok (p ++ q) ∧ q ≠ [] ∧
      (∀ n ∈ MessagePack.lengths MessagePack.mixedDocument, n < 2 ^ 32) ∧
      ∃ reason, decode .msgpack p = .error (.deserializationFailed reason) := by
  have short : ∀ n ∈ MessagePack.lengths MessagePack.mixedDocument, n < 2 ^ 32 := by
    decide +kernel
  have written : encode .msgpack MessagePack.mixedDocument =
      .ok ((MessagePack.encode MessagePack.mixedDocument).take 60 ++
        (MessagePack.encode MessagePack.mixedDocument).drop 60) := by
    rw [List.take_append_drop]
    rfl
  have cut : (MessagePack.encode MessagePack.mixedDocument).drop 60 ≠ [] := by decide +kernel
  exact ⟨_, _, written, cut, short, decode_truncated (by decide) (fun _ => short) written cut⟩

/-! ## What follows a document -/

/-- Letters and digits are no white space, in bytes and as characters, and open no tag. -/
theorem visible_of_isAlphanum {b : UInt8} (plain : Bytes.isAlphanum b) :
    b.toNat < 0x80 ∧ Bytes.isBlank b = false ∧ Json.isSpace b = false ∧
      Unicode.isBlank (Char.ofNat b.toNat) = false ∧ Char.ofNat b.toNat ≠ '<' := by
  have all : ∀ n < 256, Bytes.isAlphanum (UInt8.ofNat n) →
      n < 0x80 ∧ Bytes.isBlank (UInt8.ofNat n) = false ∧ Json.isSpace (UInt8.ofNat n) = false ∧
        Unicode.isBlank (Char.ofNat n) = false ∧ Char.ofNat n ≠ '<' := by
    decide +kernel
  have here := all b.toNat b.toNat_lt
  rw [UInt8.ofNat_toNat] at here
  exact here plain

/-- Letters and digits are text. -/
theorem encodeChars_of_isAlphanum (plain : ∀ b ∈ s, Bytes.isAlphanum b) :
    Utf8.encodeChars (s.map fun b => Char.ofNat b.toNat) = s := by
  induction s with
  | nil => rfl
  | cons b s ih =>
    obtain ⟨first, others⟩ := List.forall_mem_cons.1 plain
    have single := Utf8.encodeChar_single (visible_of_isAlphanum first).1
    rw [List.map_cons, Utf8.encodeChars_cons, single, ih others, List.singleton_append]

/-- The delimited text, JSON and XML are read to the end, so letters and digits `s` behind a
document are refused. -/
theorem exists_decode_append_eq_error (other : f ≠ .msgpack) (written : encode f d = .ok b)
    (some : s ≠ []) (plain : ∀ c ∈ s, Bytes.isAlphanum c) :
    ∃ e, decode f (b ++ s) = .error e := by
  have draft := Draft.finish_eq_ok_iff.1 written
  obtain ⟨c, t, rfl⟩ := List.exists_cons_of_ne_nil some
  obtain ⟨-, blank, space, visible, bracket⟩ :=
    visible_of_isAlphanum (plain c List.mem_cons_self)
  -- each reader meets `c` where it looks for the end of the input
  cases f with
  | text =>
    obtain ⟨absent, writable, rfl⟩ := Delimited.encode_eq_of_iff.1 draft
    obtain ⟨n, scanned⟩ := Delimited.exists_scan_document_append absent writable blank t
    change ∃ e, (Delimited.decodeWith _ _).mapError Delimited.Fault.error = .error e
    rw [Delimited.decodeWith, scanned]
    exact ⟨_, rfl⟩
  | json =>
    obtain rfl : Json.encode d = b := Draft.of_injective draft
    rw [decode, Json.decode?_append_eq_none d space t]
    exact ⟨_, rfl⟩
  | xml =>
    obtain ⟨proper, rfl⟩ := Xml.encode_eq_of_iff.1 draft
    obtain ⟨fault, refused⟩ := Xml.exists_parse_append proper visible bracket
      (t.map fun b => Char.ofNat b.toNat)
    have same : Utf8.encodeChars (Char.ofNat c.toNat :: t.map fun b => Char.ofNat b.toNat) =
        c :: t := encodeChars_of_isAlphanum plain
    rw [Utf8.encodeChars_append, same] at refused
    rw [decode, Xml.decode, refused]
    exact ⟨_, rfl⟩
  | msgpack => exact absurd rfl other

/-- Letters and digits `s` behind a document are refused, except in MessagePack. There a document is
read as if they were not there, and every document is read whose `lengths` fit in four bytes and
whose arrays are not nested beyond `nestingLimit`. -/
theorem decode_trailed (written : encode f d = .ok b) (some : s ≠ [])
    (plain : ∀ c ∈ s, Bytes.isAlphanum c) :
    (f ≠ .msgpack → ∃ reason, decode f (b ++ s) = .error (.deserializationFailed reason)) ∧
      (f = .msgpack → ∀ e, decode f b = .ok e → decode f (b ++ s) = .ok e) ∧
      (f = .msgpack → (∀ n ∈ MessagePack.lengths d, n < 2 ^ 32) →
        (∀ n ∈ d.values, MessagePack.arrayLevels n.value ≤ MessagePack.nestingLimit - 2) →
          decode f (b ++ s) = .ok (MessagePack.canonical d)) := by
  -- the reader stops where the document ends and never looks at `s`
  have dropped {e : Document} (decoded : MessagePack.decode b = .ok e) :
      decode .msgpack (b ++ s) = .ok e := by
    rw [decode, MessagePack.decode_append decoded s]
    rfl
  refine ⟨fun other => ?_, ?_, ?_⟩
  · obtain ⟨e, refused⟩ := exists_decode_append_eq_error other written some plain
    obtain ⟨reason, rfl⟩ := exists_of_decode_eq_error refused
    exact ⟨reason, refused⟩
  · rintro rfl e decoded
    exact dropped (Except.eq_ok_of_mapError_eq_ok decoded)
  · rintro rfl short shallow
    obtain rfl : MessagePack.encode d = b := Draft.of_injective (Draft.finish_eq_ok_iff.1 written)
    exact dropped ((MessagePack.gives_decode_encode short).ok shallow)

/-- A document without values. -/
def emptyPack : Bytes := MessagePack.encode .empty

theorem short_empty : ∀ n ∈ MessagePack.lengths .empty, n < 2 ^ 32 := by decide +kernel

theorem decode_emptyPack : decode .msgpack emptyPack = .ok .empty := by
  rw [decode, emptyPack, (MessagePack.gives_decode_encode short_empty).ok (List.forall_mem_nil _)]
  rfl

theorem decode_trailed_empty :
    (encode .msgpack .empty = .ok emptyPack ∧ decode .msgpack emptyPack = .ok .empty ∧
        decode .msgpack (emptyPack ++ [0x61]) = .ok .empty) ∧
      (∀ n ∈ MessagePack.lengths .empty, n < 2 ^ 32) ∧
      decode .msgpack (emptyPack ++ [0x61]) = .ok (MessagePack.canonical .empty) ∧
      encode .json .empty = .ok (Json.encode .empty) ∧
        ∃ reason, decode .json (Json.encode .empty ++ [0x61]) =
          .error (.deserializationFailed reason) := by
  have plain : ∀ c ∈ ([0x61] : Bytes), Bytes.isAlphanum c :=
    List.forall_mem_singleton.2 (by decide)
  have some : ([0x61] : Bytes) ≠ [] := by decide
  have packed : encode .msgpack .empty = .ok emptyPack := rfl
  have written : encode .json .empty = .ok (Json.encode .empty) := rfl
  obtain ⟨-, dropped, read⟩ := decode_trailed packed some plain
  obtain ⟨refused, -, -⟩ := decode_trailed written some plain
  exact ⟨⟨packed, decode_emptyPack, dropped rfl _ decode_emptyPack⟩, short_empty,
    read rfl short_empty (List.forall_mem_nil _), written, refused (by decide)⟩

/-- A letter behind a document in MessagePack is dropped without a word. -/
theorem decode_trailedPack :
    encode .msgpack .empty = .ok emptyPack ∧ Bytes.isAlphanum 0x61 ∧
      decode .msgpack (emptyPack ++ [0x61]) = .ok .empty ∧
      ¬∃ reason,
        decode .msgpack (emptyPack ++ [0x61]) = .error (.deserializationFailed reason) := by
  have read : decode .msgpack (emptyPack ++ [0x61]) = .ok .empty := by
    rw [decode, MessagePack.decode_append (Except.eq_ok_of_mapError_eq_ok decode_emptyPack) [0x61]]
    rfl
  refine ⟨rfl, by decide, read, ?_⟩
  rintro ⟨reason, refused⟩
  rw [read] at refused
  cases refused

end Codec

end Parcel
