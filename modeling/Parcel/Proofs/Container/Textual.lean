import Parcel.Proofs.Codec.Textual
import Parcel.Proofs.Delimited.Domain
import Parcel.Proofs.Pool.Independence

/-!
# Encodings handed out as text

An encoding is handed out as text when it is UTF-8, and is refused otherwise. In JSON and XML it
always is. In the text format it is not when there are bytes among the values of the container that
are not UTF-8: these stand in the encoding as they are. Bytes further inside, in a container or an
array, do not matter.

## Main results

* `Container.exists_encodedText_iff` — the encodings that are handed out in the text format
* `Container.serializeText_outcome` — when there is a text, and which one
-/

namespace Parcel.Container

variable {c : Container} {pool : Pool} {f : Format} {s : Bytes} {d : Document}

theorem serializeText_eq [Memory] (textual : f.isTextual = true) :
    (c.serializeText f pool).1 = (c.serialize f pool).1 >>= encodedText f := by
  rw [serializeText, textual]
  rfl

theorem encodedText_eq_ok_iff {text : String} :
    encodedText f s = .ok text ↔ s = Utf8.encode text := by
  rw [encodedText, ← Utf8.decode_eq_ok_iff]
  cases Utf8.decode s <;> simp [Except.mapError]

theorem exists_of_encodedText_eq_error {e : Error} (refused : encodedText f s = .error e) :
    ∃ message, e = .encodingError message := by
  unfold encodedText at refused
  cases read : Utf8.decode s with
  | ok text =>
    rw [read] at refused
    cases refused
  | error fault =>
    rw [read] at refused
    exact ⟨_, (Except.error.inj refused).symm⟩

/-- An encoding in the text format is handed out as text when the bytes among the values are the
encodings of texts. -/
theorem exists_encodedText_iff (written : Codec.encode .text d = .ok s) :
    (∃ text, encodedText .text s = .ok text) ↔
      ∀ n ∈ d.values, ∀ x, n.value = .bytes x → ∃ t, x = Utf8.encode t := by
  simp only [encodedText_eq_ok_iff, Utf8.exists_encode_iff]
  exact Delimited.isValid_iff_of_encode (Draft.finish_eq_ok_iff.1 written)

/-- With room for the `estimate`, what is written is the encoding of the snapshot. -/
theorem serialize_eq_encode [Memory] (shared : pool.Reachable) (held : c.snapshot.1 = .ok d)
    (room : Memory.reserve (estimate d) = .ok ()) (f : Format) :
    (c.serialize f pool).1 = Codec.encode f d := by
  rw [serialize_eq shared.clean, held]
  change Memory.reserve (estimate d) >>= _ = _
  rw [room]
  rfl

/-- Whatever is written is the encoding of the snapshot. -/
theorem exists_encode_of_serialize [Memory] (shared : pool.Reachable)
    (written : (c.serialize f pool).1 = .ok s) :
    ∃ d, c.snapshot.1 = .ok d ∧ Codec.encode f d = .ok s := by
  rw [serialize_eq shared.clean] at written
  obtain ⟨d, held, reserved⟩ := Except.exists_of_bind_eq_ok written
  obtain ⟨-, -, encoded⟩ := Except.exists_of_bind_eq_ok reserved
  exact ⟨d, held, encoded⟩

/-- A container is handed out as text in the text format exactly when the text format can carry it
and the bytes among its values are the encodings of texts. It is the text of what `serialize` writes
then, and otherwise the error is one of encoding. In JSON and XML whatever is written is handed out.
-/
theorem serializeText_outcome [Memory] {pool : Pool} (shared : pool.Reachable) (c : Container) :
    (∀ d, c.snapshot.1 = .ok d → Memory.reserve (estimate d) = .ok () →
      ((∃ text, (c.serializeText .text pool).1 = .ok text) ↔
        (∃ s, Codec.encode .text d = .ok s) ∧
          ∀ n ∈ d.values, ∀ x, n.value = .bytes x → ∃ t, x = Utf8.encode t) ∧
      (∀ text, (c.serializeText .text pool).1 = .ok text →
        (c.serialize .text pool).1 = .ok (Utf8.encode text)) ∧
      ∀ e, (c.serializeText .text pool).1 = .error e → ∃ message, e = .encodingError message) ∧
    ∀ f, f = .json ∨ f = .xml → ∀ s, (c.serialize f pool).1 = .ok s →
      ∃ text, (c.serializeText f pool).1 = .ok text ∧ Utf8.encode text = s := by
  constructor
  · intro d held room
    rw [serializeText_eq rfl, serialize_eq_encode shared held room]
    obtain ⟨s, encoded⟩ | ⟨r, refused⟩ := (Delimited.refusing_encode d).finish
    · replace encoded : Codec.encode .text d = .ok s := encoded
      rw [encoded]
      change ((∃ text, encodedText .text s = .ok text) ↔ _) ∧
        (∀ text, encodedText .text s = .ok text → _) ∧ ∀ e, encodedText .text s = .error e → _
      refine ⟨?_, fun text given => ?_, fun e failed => exists_of_encodedText_eq_error failed⟩
      · rw [exists_encodedText_iff encoded]
        exact (and_iff_right ⟨s, rfl⟩).symm
      · exact congrArg _ (encodedText_eq_ok_iff.1 given)
    · -- what the text format cannot carry is not written at all
      replace refused : Codec.encode .text d = .error r.error := refused
      rw [refused]
      refine ⟨⟨?_, ?_⟩, ?_, ?_⟩
      · rintro ⟨text, given⟩
        cases given
      · rintro ⟨⟨s, encoded⟩, -⟩
        cases encoded
      · intro text given
        cases given
      · intro e failed
        exact ⟨r.message, (Except.error.inj failed).symm⟩
  · intro f characters s written
    -- both formats write characters, so their bytes are always text
    have textual : f.isTextual = true := by rcases characters with rfl | rfl <;> rfl
    obtain ⟨d, -, encoded⟩ := exists_encode_of_serialize shared written
    obtain ⟨text, rfl⟩ := Utf8.exists_encode_iff.2 (Codec.isValid_of_encode characters encoded)
    refine ⟨text, ?_, rfl⟩
    rw [serializeText_eq textual, written]
    exact encodedText_eq_ok_iff.2 rfl

/-- A document with bytes that are not ASCII, and further inside with bytes that are not UTF-8. -/
def accented : Document :=
  ⟨{ messageType := "größe" },
    [⟨"bytes", .bytes (Utf8.encode "größe")⟩, ⟨"inside", .array [.bytes [0xC3], .bytes [0xB6]]⟩]⟩

open scoped Memory.Plenty

theorem serializeText_outcome_accented :
    let c := ofDocument .linear accented
    let pool : Pool := .block (.new 4)
    pool.Reachable ∧ c.snapshot.1 = .ok accented ∧
      Memory.reserve (estimate accented) = .ok () ∧
      ∃ text, (c.serializeText .text pool).1 = .ok text ∧
        (c.serialize .text pool).1 = .ok (Utf8.encode text) := by
  intro c pool
  have shared : pool.Reachable := .block 4
  have held : c.snapshot.1 = .ok accented := rfl
  have room : Memory.reserve (estimate accented) = .ok () := by decide +kernel
  obtain ⟨⟨-, given⟩, same, -⟩ := (serializeText_outcome shared c).1 accented held room
  have encoded : ∃ s, Codec.encode .text accented = .ok s := ⟨_, rfl⟩
  have texts : ∀ n ∈ accented.values, ∀ x, n.value = .bytes x → ∃ t, x = Utf8.encode t := by
    refine List.forall_mem_cons.2 ⟨?_, List.forall_mem_singleton.2 nofun⟩
    rintro _ ⟨⟩
    exact ⟨"größe", rfl⟩
  obtain ⟨text, given⟩ := given ⟨encoded, texts⟩
  exact ⟨shared, held, room, text, given, same text given⟩

/-- The two bytes of a character do not make text when they are two values. -/
example :
    let divided : Document := ⟨{}, [⟨"a", .bytes [0xC3]⟩, ⟨"b", .bytes [0xB6]⟩]⟩
    ((ofDocument .linear divided).serializeText .text (.block (.new 4))).1 =
      .error (.encodingError
        "text output is not valid UTF-8: invalid utf-8 sequence of 1 bytes from index 54") := by
  decide +kernel

end Parcel.Container
