import Parcel.Delimited.Reader
import Parcel.Proofs.Delimited.Accepted
import Parcel.Proofs.Unicode.Utf8

/-!
# Literals

What the raw bytes of a value have to be for the kind of the value, in the words of the format, and
what the decoder makes of them. Numbers, strings and bytes are taken exactly when they are literals.
The two kinds whose payload is smallest are not as strict: nothing is asked of the bytes of a null,
and every text that names neither truth value counts as false.

## Main definitions

* `Decimal.Denotes` — an integer in decimal
* `Delimited.Literal` — a literal of a kind, and the value that it denotes
* `Delimited.Indulged` — what is no literal of its kind and is taken for a value all the same

## Main results

* `Decimal.natural?_eq_some_iff_denotes`, `Decimal.integer?_eq_some_iff_denotes` — the readers of
  integers
* `Delimited.decodeWithin_eq_ok_iff` — what a value is read from
* `Delimited.decodeValue_flat` — what becomes of any bytes
* `Delimited.decodeValue_unsureText` — a text that is taken for a truth value
-/

namespace Parcel

/-! ## Integers in decimal -/

namespace Decimal

/-- Some digits denote a number: there is one at least, and nothing else. -/
structure Digits (cs : List Char) : Prop where
  nonempty : cs ≠ []
  digits : ∀ c ∈ cs, '0' ≤ c ∧ c ≤ '9'

/-- A text denotes an integer: digits with at most one sign in front, which is a minus sign only
where negative numbers are meant. -/
inductive Denotes (signed : Bool) : List Char → Int → Prop where
  /-- Without a sign. -/
  | plain {cs : List Char} (digits : Digits cs) : Denotes signed cs (Nat.ofDigitChars 10 cs 0)
  /-- With a plus sign. -/
  | plus {cs : List Char} (digits : Digits cs) :
    Denotes signed ('+' :: cs) (Nat.ofDigitChars 10 cs 0)
  /-- With a minus sign. -/
  | minus {cs : List Char} (negative : signed = true) (digits : Digits cs) :
    Denotes signed ('-' :: cs) (-(Nat.ofDigitChars 10 cs 0 : Int))

variable {cs : List Char} {m : Nat} {n : Int} {c : Char}

theorem digits?_eq_some_iff : digits? cs = some m ↔ Digits cs ∧ Nat.ofDigitChars 10 cs 0 = m := by
  have digits : Digits cs ↔ cs ≠ [] ∧ cs.all isDigit :=
    ⟨fun ⟨nonempty, digits⟩ => ⟨nonempty, by simpa [isDigit] using digits⟩,
      fun ⟨nonempty, digits⟩ => ⟨nonempty, by simpa [isDigit] using digits⟩⟩
  rw [digits, digits?, value]
  split
  · next some => simp [some]
  · next other => simp only [other, false_and, reduceCtorEq]

/-- No sign is a digit. -/
theorem Digits.ne_sign (digits : Digits (c :: cs)) : c ≠ '+' ∧ c ≠ '-' := by
  obtain ⟨low, high⟩ := digits.digits c List.mem_cons_self
  constructor <;> rintro rfl
  · exact absurd low (by decide)
  · exact absurd low (by decide)

/-- A natural number with a plus sign or with none: the texts that `natural?` reads. -/
theorem natural?_eq_some_iff : natural? cs = some m ↔
    Digits cs ∧ Nat.ofDigitChars 10 cs 0 = m ∨
      ∃ ds, cs = '+' :: ds ∧ Digits ds ∧ Nat.ofDigitChars 10 ds 0 = m := by
  cases cs with
  | nil => simp [natural?, digits?_eq_some_iff]
  | cons c cs =>
    by_cases plus : c = '+'
    · subst plus
      have signed : ¬Digits ('+' :: cs) := fun digits => digits.ne_sign.1 rfl
      simp [natural?, digits?_eq_some_iff, signed]
    · simp [natural?, digits?_eq_some_iff, plus]

theorem natural?_eq_some_iff_denotes :
    (natural? cs).map Int.ofNat = some n ↔ Denotes false cs n := by
  simp only [Option.map_eq_some_iff, natural?_eq_some_iff]
  constructor
  · rintro ⟨_, ⟨digits, rfl⟩ | ⟨ds, rfl, digits, rfl⟩, rfl⟩
    · exact .plain digits
    · exact .plus digits
  · rintro (digits | digits | ⟨⟨⟩, _⟩)
    · exact ⟨_, .inl ⟨digits, rfl⟩, rfl⟩
    · exact ⟨_, .inr ⟨_, rfl, digits, rfl⟩, rfl⟩

theorem integer?_minus (cs : List Char) :
    integer? ('-' :: cs) = Option.map (fun m : Nat => -(m : Int)) (digits? cs) := by
  rw [integer?]
  cases digits? cs <;> rfl

/-- An integer has one minus sign, or is a natural number: the texts that `integer?` reads. -/
theorem integer?_eq_some_iff_denotes : integer? cs = some n ↔ Denotes true cs n := by
  have natural : (natural? cs).map Int.ofNat = some n → Denotes true cs n := fun read => by
    rcases natural?_eq_some_iff_denotes.1 read with digits | digits | ⟨⟨⟩, _⟩
    · exact .plain digits
    · exact .plus digits
  constructor
  · intro read
    -- behind a minus sign there is no room for a second sign
    by_cases minus : ∃ ds, cs = '-' :: ds
    · obtain ⟨ds, rfl⟩ := minus
      rw [integer?_minus] at read
      obtain ⟨_, found, rfl⟩ := Option.map_eq_some_iff.1 read
      obtain ⟨digits, rfl⟩ := digits?_eq_some_iff.1 found
      exact .minus rfl digits
    · rw [integer?] at read
      · exact natural read
      · exact fun ds eq => minus ⟨ds, eq⟩
  · rintro (digits | digits | ⟨-, digits⟩)
    · rw [integer?]
      · exact natural?_eq_some_iff_denotes.2 (.plain digits)
      · rintro ds rfl
        exact digits.ne_sign.2 rfl
    · exact natural?_eq_some_iff_denotes.2 (.plus digits)
    · rw [integer?_minus, digits?_eq_some_iff.2 ⟨digits, rfl⟩]
      rfl

end Decimal

/-- What `ofInt?` makes of a number is the integer of that kind with the number. -/
theorem Integer.ofInt?_eq_some_iff {kind : IntegerKind} {n : Int} {i : Integer} :
    ofInt? kind n = some i ↔ i.kind = kind ∧ i.number = n := by
  obtain ⟨kind', n', holds⟩ := i
  rw [ofInt?]
  constructor
  · intro found
    split at found
    · cases found
      exact ⟨rfl, rfl⟩
    · cases found
  · rintro ⟨rfl, rfl⟩
    exact dif_pos holds

namespace Delimited

/-! ## What a literal is -/

/-- A value other than a floating-point number, a container or an array is written as these bytes.
Bytes stand for themselves. Everything else is text, and all but strings may have white space at
either end. -/
inductive Literal : Kind → Bytes → Value → Prop where
  /-- Nothing, for what has no payload. -/
  | null {s : String} (nothing : Unicode.trim s = "") : Literal .null (Utf8.encode s) .null
  /-- A word or a digit for each truth value. -/
  | bool {s : String} {b : Bool}
    (named : Unicode.trim s = (if b then "true" else "false") ∨
      Unicode.trim s = if b then "1" else "0") :
    Literal .bool (Utf8.encode s) (.bool b)
  /-- A number in decimal that the kind holds. -/
  | integer {s : String} {n : Integer}
    (denotes : Decimal.Denotes n.kind.width.signed (Unicode.trim s).toList n.number) :
    Literal (.integer n.kind) (Utf8.encode s) (.integer n)
  /-- The text itself. -/
  | string (s : String) : Literal .string (Utf8.encode s) (.string s)
  /-- The bytes themselves. -/
  | bytes (s : Bytes) : Literal .bytes s (.bytes s)

/-- What is no literal of its kind, and the value that it is taken for: anything at all for a null,
and any other text for false. -/
inductive Indulged : Kind → Bytes → Value → Prop where
  /-- A null with a payload. -/
  | null {raw : Bytes} (other : ¬Literal .null raw .null) : Indulged .null raw .null
  /-- A text that names no truth value. -/
  | bool {s : String}
    (other : Unicode.trim s ≠ "true" ∧ Unicode.trim s ≠ "false" ∧ Unicode.trim s ≠ "1" ∧
      Unicode.trim s ≠ "0") :
    Indulged .bool (Utf8.encode s) (.bool false)

/-- A kind of values that are written without digits behind a point and without other values
inside. -/
def IsFlat (kind : Kind) : Prop :=
  kind.isFloating = false ∧ kind ≠ .container ∧ kind ≠ .array

variable {kind : Kind} {raw : Bytes} {v : Value} {levels : Nat}

/-! ## What is read -/

theorem text_eq_ok_iff {part : String} {s : String} :
    text part raw = .ok s ↔ raw = Utf8.encode s := by
  constructor
  · intro read
    exact Utf8.eq_encode_of_decode (Except.eq_ok_of_mapError_eq_ok read)
  · rintro rfl
    rw [text, Utf8.decode_encode]
    rfl

/-- The characters of a `literal` are those of a text without the white space around it. -/
theorem literal_eq_ok_iff {cs : List Char} :
    literal kind raw = .ok cs ↔ ∃ s, raw = Utf8.encode s ∧ cs = (Unicode.trim s).toList := by
  rw [literal]
  constructor
  · intro read
    obtain ⟨s, found, rfl⟩ := Except.exists_of_map_eq_ok read
    exact ⟨s, text_eq_ok_iff.1 found, (String.toList_ofList).symm⟩
  · rintro ⟨s, rfl, rfl⟩
    rw [text_eq_ok_iff.2 rfl, Unicode.trim, String.toList_ofList]
    rfl

theorem parsed_eq_ok_iff {read : List Char → Option Value} : parsed kind raw read = .ok v ↔
    ∃ s, raw = Utf8.encode s ∧ read (Unicode.trim s).toList = some v := by
  constructor
  · intro done
    obtain ⟨cs, found, done⟩ := Except.exists_of_bind_eq_ok done
    obtain ⟨s, rfl, rfl⟩ := literal_eq_ok_iff.1 found
    refine ⟨s, rfl, ?_⟩
    cases given : read (Unicode.trim s).toList <;> rw [given] at done <;> cases done
    rfl
  · rintro ⟨s, rfl, given⟩
    rw [parsed, literal_eq_ok_iff.2 ⟨s, rfl, rfl⟩]
    simp only [bind, Except.bind, given]
    rfl

theorem integerLiteral?_eq_some_iff {k : IntegerKind} {cs : List Char} {n : Integer} :
    integerLiteral? k cs = some n ↔ n.kind = k ∧ Decimal.Denotes k.width.signed cs n.number := by
  have number {i : Int} : (if k.width.signed then Decimal.integer? cs
      else (Decimal.natural? cs).map Int.ofNat) = some i ↔ Decimal.Denotes k.width.signed cs i := by
    cases k.width.signed with
    | true => exact Decimal.integer?_eq_some_iff_denotes
    | false => exact Decimal.natural?_eq_some_iff_denotes
  simp only [integerLiteral?, Option.bind_eq_some_iff, number, Integer.ofInt?_eq_some_iff]
  constructor
  · rintro ⟨_, denotes, kind, rfl⟩
    exact ⟨kind, denotes⟩
  · rintro ⟨kind, denotes⟩
    exact ⟨_, denotes, kind, rfl⟩

/-- A text is read as the truth value that it is named as true or not. -/
theorem decodeWithin_bool_eq_ok_iff : decodeWithin (levels + 1) .bool raw = .ok v ↔
    ∃ s, raw = Utf8.encode s ∧
      v = .bool (decide (Unicode.trim s = "true" ∨ Unicode.trim s = "1")) := by
  have named (s : String) : (s.toList == ['t', 'r', 'u', 'e'] || s.toList == ['1']) =
      decide (s = "true" ∨ s = "1") := by
    have word : s.toList = ['t', 'r', 'u', 'e'] ↔ s = "true" :=
      ⟨fun same => String.toList_inj.1 same, fun same => same ▸ rfl⟩
    have digit : s.toList = ['1'] ↔ s = "1" :=
      ⟨fun same => String.toList_inj.1 same, fun same => same ▸ rfl⟩
    rw [Bool.eq_iff_iff, Bool.or_eq_true, beq_iff_eq, beq_iff_eq, decide_eq_true_iff, word, digit]
  rw [decodeWithin]
  constructor
  · intro read
    obtain ⟨cs, found, rfl⟩ := Except.exists_of_map_eq_ok read
    obtain ⟨s, rfl, rfl⟩ := literal_eq_ok_iff.1 found
    exact ⟨s, rfl, congrArg Value.bool (named _)⟩
  · rintro ⟨s, rfl, rfl⟩
    rw [literal_eq_ok_iff.2 ⟨s, rfl, rfl⟩]
    exact congrArg (fun b => Except.ok (Value.bool b)) (named _)

theorem exists_of_literal_bool (stated : Literal .bool raw v) :
    ∃ s b, (Unicode.trim s = (if b then "true" else "false") ∨
        Unicode.trim s = if b then "1" else "0") ∧ raw = Utf8.encode s ∧ v = .bool b := by
  cases stated with
  | bool named => exact ⟨_, _, named, rfl, rfl⟩

/-- A value is read from a `Literal` of its kind, or from what is `Indulged` as one. -/
theorem decodeWithin_eq_ok_iff (flat : IsFlat kind) :
    decodeWithin (levels + 1) kind raw = .ok v ↔ Literal kind raw v ∨ Indulged kind raw v := by
  cases kind with
  | null =>
    constructor
    · rintro ⟨⟩
      by_cases blank : Literal .null raw .null
      · exact .inl blank
      · exact .inr (.null blank)
    · rintro (⟨⟨⟩⟩ | ⟨⟨⟩⟩) <;> rfl
  | bool =>
    rw [decodeWithin_bool_eq_ok_iff]
    constructor
    · -- what is not read as true is read as false, whether it says so or not
      rintro ⟨s, rfl, rfl⟩
      by_cases yes : Unicode.trim s = "true" ∨ Unicode.trim s = "1"
      · rw [decide_eq_true yes]
        exact .inl (.bool yes)
      · rw [decide_eq_false yes]
        by_cases no : Unicode.trim s = "false" ∨ Unicode.trim s = "0"
        · exact .inl (.bool no)
        · rw [not_or] at yes no
          exact .inr (.bool ⟨yes.1, no.1, yes.2, no.2⟩)
    · rintro (stated | stated)
      · obtain ⟨s, b, named, rfl, rfl⟩ := exists_of_literal_bool stated
        refine ⟨s, rfl, congrArg Value.bool ?_⟩
        cases b with
        | true => exact (decide_eq_true named).symm
        | false =>
          symm
          rw [decide_eq_false_iff_not]
          rcases named with named | named <;> rw [named] <;> decide
      · cases stated with
        | bool other =>
          refine ⟨_, rfl, congrArg Value.bool ?_⟩
          symm
          rw [decide_eq_false_iff_not, not_or]
          exact ⟨other.1, other.2.2.1⟩
  | integer k =>
    have read : decodeWithin (levels + 1) (.integer k) raw = .ok v ↔
        ∃ s, raw = Utf8.encode s ∧ ∃ n : Integer, n.kind = k ∧
          Decimal.Denotes k.width.signed (Unicode.trim s).toList n.number ∧ .integer n = v := by
      rw [decodeWithin, parsed_eq_ok_iff]
      simp only [Option.map_eq_some_iff, integerLiteral?_eq_some_iff, and_assoc]
    rw [read]
    constructor
    · rintro ⟨s, rfl, n, rfl, denotes, rfl⟩
      exact .inl (.integer denotes)
    · rintro (stated | ⟨⟨⟩⟩)
      cases stated with
      | integer denotes => exact ⟨_, rfl, _, rfl, denotes, rfl⟩
  | string =>
    rw [decodeWithin]
    constructor
    · intro read
      obtain ⟨s, found, rfl⟩ := Except.exists_of_map_eq_ok read
      rw [text_eq_ok_iff.1 found]
      exact .inl (.string s)
    · rintro (⟨⟨⟩⟩ | ⟨⟨⟩⟩)
      rw [text_eq_ok_iff.2 rfl]
      rfl
  | bytes =>
    constructor
    · rintro ⟨⟩
      exact .inl (.bytes raw)
    · rintro (⟨⟨⟩⟩ | ⟨⟨⟩⟩)
      rfl
  | float | double => exact absurd flat.1 (by decide)
  | container => exact absurd rfl flat.2.1
  | array => exact absurd rfl flat.2.2

/-- What is `Indulged` is no `Literal`. -/
theorem Indulged.not_literal {w : Value} (indulged : Indulged kind raw v) :
    ¬Literal kind raw w := by
  intro stated
  cases indulged with
  | null other =>
    cases stated with
    | null nothing => exact other (.null nothing)
  | @bool s other =>
    -- the same bytes are of one text only
    obtain ⟨t, b, named, same, rfl⟩ := exists_of_literal_bool stated
    obtain rfl := Utf8.encode_injective same
    cases b with
    | true => exact named.elim other.1 other.2.2.1
    | false => exact named.elim other.2.1 other.2.2.2

/-! ## What becomes of any bytes -/

/-- At a depth within `depthLimit` a level is left for the value itself. -/
theorem decodeValue_eq {depth : Nat} (shallow : depth ≤ Document.depthLimit) :
    decodeValue kind raw depth = decodeWithin (Document.depthLimit - depth + 1) kind raw := by
  rw [decodeValue, levelsAt, Nat.sub_add_comm shallow]

/-- Bytes are decoded to the values that they are a `Literal` of, and to no other value, unless they
are `Indulged`, as a null with a payload or a text in place of a truth value: these are no literals
of anything, and are taken for null and for false. All other bytes are refused with a
`deserializationFailed`. -/
theorem decodeValue_flat (flat : IsFlat kind) (raw : Bytes) {depth : Nat}
    (shallow : depth ≤ Document.depthLimit) :
    (∀ v, decodeValue kind raw depth = .ok v ↔ Literal kind raw v ∨ Indulged kind raw v) ∧
      (∀ v, Indulged kind raw v → ∀ w, ¬Literal kind raw w) ∧
      ((∀ v, ¬Literal kind raw v ∧ ¬Indulged kind raw v) →
        ∃ message, (decodeValue kind raw depth).mapError Fault.error =
          .error (.deserializationFailed message)) := by
  rw [decodeValue_eq shallow]
  refine ⟨fun v => decodeWithin_eq_ok_iff flat, fun v indulged w => indulged.not_literal, ?_⟩
  intro neither
  cases decoded : decodeWithin (Document.depthLimit - depth + 1) kind raw with
  | ok v =>
    obtain ⟨unstated, strict⟩ := neither v
    exact absurd ((decodeWithin_eq_ok_iff flat).1 decoded) (not_or.2 ⟨unstated, strict⟩)
  | error fault => exact ⟨fault.message, rfl⟩

/-- A number with a plus sign and white space around it, at the depth limit. -/
theorem decodeValue_flat_paddedNumber :
    IsFlat (.integer .ushort) ∧ 64 ≤ Document.depthLimit ∧
      decodeValue (.integer .ushort) (Utf8.encode " +0065535\n") 64 =
        .ok (.integer ⟨.ushort, 65535, by decide⟩) := by
  have flat : IsFlat (.integer .ushort) := by
    refine ⟨rfl, ?_, ?_⟩ <;> exact nofun
  have trimmed : (Unicode.trim " +0065535\n").toList = '+' :: "0065535".toList := by
    decide +kernel
  have number : (Nat.ofDigitChars 10 "0065535".toList 0 : Int) = 65535 := by decide +kernel
  have denotes : Decimal.Denotes false (Unicode.trim " +0065535\n").toList 65535 := by
    rw [trimmed, ← number]
    exact .plus ⟨by simp, by simp⟩
  obtain ⟨reads, -, -⟩ := decodeValue_flat flat (Utf8.encode " +0065535\n")
    (Nat.le_refl Document.depthLimit)
  refine ⟨flat, Nat.le_refl _, (reads _).2 (.inl ?_)⟩
  exact @Literal.integer _ ⟨.ushort, 65535, by decide⟩ denotes

/-- A text that names no truth value. -/
def unsureText : Bytes := Utf8.encode "maybe"

/-- The text `unsureText` is a literal of nothing, and is taken for false where a truth value is
expected. -/
theorem decodeValue_unsureText :
    decodeValue .bool unsureText 0 = .ok (.bool false) ∧ ∀ v, ¬Literal .bool unsureText v := by
  have other : Indulged .bool unsureText (.bool false) := .bool (by decide +kernel)
  have flat : IsFlat .bool := ⟨rfl, nofun, nofun⟩
  exact ⟨(decodeWithin_eq_ok_iff flat).2 (.inr other), fun v => other.not_literal⟩

end Delimited

end Parcel
