import Parcel.Proofs.Codec.Stability
import Parcel.Value.Typed

/-!
# Integers through the codecs

The text format keeps the kinds of integers. JSON and MessagePack do not, and bring an integer back
with the narrowest kind that holds its number. Neither shows to a caller who reads integers by type,
since all that counts there is the number. Values of other kinds may come back as anything, a finite
floating-point number of JSON for one, as long as each stays where it was and keeps its name.

## Main definitions

* `Named.CarriesNumber` — a named value that keeps its number, if it has one

## Main results

* `Codec.forall₂_carriesNumber` — every value keeps its place, its name and its number
* `Codec.readAs?_decoded` — integers are read the same by every integer type
* `Codec.readAs?_overrun` — an integer that is not, behind a buffer that is too long
-/

namespace Parcel

/-! ## Numbers that are kept -/

/-- The value `m` has the name of `n`, and its number if that is an integer. -/
structure Named.CarriesNumber (n m : Named) : Prop where
  name : m.name = n.name
  number : ∀ x, n.value.asInteger? = some x → m.value.asInteger? = some x

section

variable {name : String} {v w : Value} {values read : List Named}

theorem Named.CarriesNumber.mk' (number : ∀ i, v = .integer i → w.asInteger? = some i.number) :
    CarriesNumber ⟨name, v⟩ ⟨name, w⟩ := by
  refine ⟨rfl, fun x given => ?_⟩
  cases v with
  | integer i =>
    obtain rfl := Option.some.inj given
    exact number i rfl
  | _ => cases given

/-- The first value of a name comes back as the first value of that name, where lists are matched by
`CarriesNumber`. -/
theorem Named.CarriesNumber.exists_find? (carried : List.Forall₂ CarriesNumber values read)
    {n : Named} (found : Named.find? name values = some n) :
    ∃ m, Named.find? name read = some m ∧ n.CarriesNumber m := by
  induction carried with
  | nil => cases found
  | @cons n' m' values read first _ ih =>
    rw [Named.find?] at found ⊢
    -- both searches stop here or neither does
    by_cases same : n'.name = name
    · rw [List.find?_cons_of_pos (by simpa using same)] at found
      obtain rfl := Option.some.inj found
      have same : m'.name = name := first.name.trans same
      exact ⟨m', List.find?_cons_of_pos (by simpa using same), first⟩
    · rw [List.find?_cons_of_neg (by simpa using same)] at found
      have differ : m'.name ≠ name := fun same' => same (first.name.symm.trans same')
      rw [List.find?_cons_of_neg (by simpa using differ)]
      exact ih found

end

/-! ## The formats -/

/-- The text format keeps names and the integers themselves, in the sense of `CarriesNumber`. -/
theorem Named.carriesNumber_receivedAll (values : List Named) :
    List.Forall₂ CarriesNumber values (receivedAll values) := by
  induction values with
  | nil => exact .nil
  | cons n rest ih =>
    obtain ⟨name, v⟩ := n
    refine .cons (.mk' ?_) ih
    rintro i rfl
    rfl

namespace Json

variable {values read : List Named} {room depth : Nat}

/-- The members of a document are read by `namedOf?` as values with their names and numbers,
whatever becomes of the values that are no integers. -/
theorem carriesNumber_of_namedOf? (decoded : namedOf? room depth (memberTrees values) = some read) :
    List.Forall₂ Named.CarriesNumber values read := by
  induction values generalizing read with
  | nil =>
    obtain rfl := Option.some.inj decoded
    exact .nil
  | cons n rest ih =>
    obtain ⟨name, v⟩ := n
    rw [memberTrees, namedOf?, text?_escape] at decoded
    obtain ⟨_, ⟨⟩, decoded⟩ := Option.bind_eq_some_iff.1 decoded
    obtain ⟨w, value, decoded⟩ := Option.bind_eq_some_iff.1 decoded
    obtain ⟨others, inside, decoded⟩ := Option.bind_eq_some_iff.1 decoded
    obtain rfl := Option.some.inj decoded
    refine .cons (.mk' ?_) (ih inside)
    -- nothing has to be known of the value unless it was written as an integer
    rintro i rfl
    obtain rfl : w = .integer i.narrowed :=
      Option.some.inj (value.symm.trans (value?_integerNumeral i))
    exact congrArg some i.number_narrowed

/-- The values of a document are those read from its members. -/
theorem namedOf?_of_documentOf? {d decoded : Document}
    (read : documentOf? room depth .empty (documentMembers d) = some decoded) :
    namedOf? (room - 1) depth (memberTrees d.values) = some decoded.values := by
  have other : "values" ≠ "header" := by decide
  rw [documentMembers] at read
  simp only [documentOf?, text?_escape, bind, Option.bind, if_true, if_neg other, valuesOf?] at read
  cases header : headerOf? room (headerTree d.header) with
  | none =>
    rw [header] at read
    cases read
  | some h =>
    rw [header] at read
    -- the values are one level further in than the document
    by_cases full : room = 0
    · simp only [if_pos full, reduceCtorEq] at read
    · simp only [if_neg full] at read
      cases inside : namedOf? (room - 1) depth (memberTrees d.values) with
      | none =>
        rw [inside] at read
        cases read
      | some values =>
        rw [inside] at read
        obtain rfl := Option.some.inj read
        rfl

/-- JSON keeps names and numbers. -/
theorem carriesNumber_of_decode? {d read : Document} (decoded : decode? (encode d) = some read) :
    List.Forall₂ Named.CarriesNumber d.values read.values := by
  rw [decode?, parse?_encode, documentTree_eq] at decoded
  exact carriesNumber_of_namedOf? (namedOf?_of_documentOf? decoded)

end Json

/-- MessagePack keeps names and numbers. -/
theorem MessagePack.carriesNumber_canonical (values : List Named) :
    List.Forall₂ Named.CarriesNumber values (values.map canonicalNamed) := by
  induction values with
  | nil => exact .nil
  | cons n rest ih =>
    obtain ⟨name, v⟩ := n
    refine .cons (.mk' ?_) ih
    rintro i rfl
    exact congrArg some i.number_narrowed

namespace Codec

variable {f : Format} {d read : Document} {s : Bytes}

/-- Every format other than XML keeps the values in order, in the sense of `CarriesNumber`.
MessagePack has four bytes for every length, and can be relied on as long as `lengths` fit. -/
theorem forall₂_carriesNumber (typed : f ≠ .xml)
    (short : f = .msgpack → ∀ n ∈ MessagePack.lengths d, n < 2 ^ 32)
    (written : encode f d = .ok s) (decoded : decode f s = .ok read) :
    List.Forall₂ Named.CarriesNumber d.values read.values := by
  cases f with
  | text =>
    obtain rfl := Delimited.eq_received_of_decode written decoded
    obtain ⟨header, values⟩ := d
    exact Named.carriesNumber_receivedAll values
  | json =>
    obtain rfl : Json.encode d = s := Except.ok.inj written
    exact Json.carriesNumber_of_decode? (decode_json_eq_ok_iff.1 decoded)
  | xml => exact absurd rfl typed
  | msgpack =>
    have gives := MessagePack.gives_decode_encode (short rfl)
    obtain rfl : MessagePack.encode d = s := Draft.of_injective (Draft.finish_eq_ok_iff.1 written)
    obtain rfl := gives.eq_of_eq_ok (Except.eq_ok_of_mapError_eq_ok decoded)
    exact MessagePack.carriesNumber_canonical d.values

/-- Reading a value by the integer type `t` gives its number `x` if the type holds that. -/
theorem readAs?_of_asInteger? {v : Value} {x : Int} (number : v.asInteger? = some x)
    (t : IntegerTarget) :
    v.readAs? (.integer t) = if t.width.Holds x then some (.number x) else none := by
  rw [Value.readAs?, Value.asIntegerOf?, number, Option.filter_some]
  by_cases holds : t.width.Holds x
  · rw [if_pos (decide_eq_true holds), if_pos holds]
    rfl
  · rw [if_neg (by simpa using holds), if_neg holds]
    rfl

/-- The first value of `name`, if it is an integer, comes back as the first value of that name, and
`readAs?` makes of it what it did before for every integer type: its number if the type holds that,
and nothing otherwise. -/
theorem readAs?_decoded (typed : f ≠ .xml)
    (short : f = .msgpack → ∀ n ∈ MessagePack.lengths d, n < 2 ^ 32)
    (written : encode f d = .ok s) (decoded : decode f s = .ok read) {name : String} {n : Named}
    {i : Integer} (found : d.get? name = some n) (integer : n.value = .integer i)
    (t : IntegerTarget) :
    ∃ m, read.get? name = some m ∧
      m.value.readAs? (.integer t) = n.value.readAs? (.integer t) ∧
      n.value.readAs? (.integer t) =
        if t.width.Holds i.number then some (.number i.number) else none := by
  have carried := forall₂_carriesNumber typed short written decoded
  obtain ⟨m, found', -, number⟩ := Named.CarriesNumber.exists_find? carried found
  have before : n.value.asInteger? = some i.number := by
    rw [integer]
    rfl
  have after := number i.number before
  exact ⟨m, found', (readAs?_of_asInteger? after t).trans (readAs?_of_asInteger? before t).symm,
    readAs?_of_asInteger? before t⟩

/-- A name of two integers, the first of which is one too great for a signed integer. -/
def repeatedName : Document :=
  ⟨{}, [⟨"a", .string "1"⟩, ⟨"k", .integer ⟨.ullong, 0x8000000000000000, by decide⟩⟩,
    ⟨"k", .integer ⟨.short, -1, by decide⟩⟩]⟩

/-- The first value of a repeated name is read as an unsigned integer, and is not read as a signed
one, after MessagePack brought it back with a kind of its own. -/
theorem readAs?_decoded_repeatedName :
    ∃ s read m, encode .msgpack repeatedName = .ok s ∧ decode .msgpack s = .ok read ∧
      read.get? "k" = some m ∧
      m.value.readAs? (.integer .nat64) = some (.number 0x8000000000000000) ∧
      m.value.readAs? (.integer .int64) = none := by
  have short : ∀ n ∈ MessagePack.lengths repeatedName, n < 2 ^ 32 := by decide +kernel
  have comes : ((encode .msgpack repeatedName).bind (decode .msgpack)).isOk := by decide +kernel
  cases written : encode .msgpack repeatedName with
  | error e => rw [written] at comes; cases comes
  | ok s =>
    rw [written] at comes
    cases decoded : decode .msgpack s with
    | error e => change (decode .msgpack s).isOk at comes; rw [decoded] at comes; cases comes
    | ok read =>
      have found : repeatedName.get? "k" = some ⟨"k", .integer ⟨.ullong, 2 ^ 63, by decide⟩⟩ := rfl
      have typed : Format.msgpack ≠ .xml := nofun
      have reads := readAs?_decoded typed (fun _ => short) written decoded found rfl
      obtain ⟨m, found, same, number⟩ := reads .nat64
      obtain ⟨m', found', same', number'⟩ := reads .int64
      obtain rfl := Option.some.inj (found.symm.trans found')
      exact ⟨s, read, m, rfl, decoded, found, same.trans number, same'.trans number'⟩

/-! ## A buffer that is too long -/

/-- The integer that is written. -/
def five : Value := .integer ⟨.int, 5, by decide⟩

/-- The integer that is read in its place. -/
def seven : Value := .integer ⟨.int, 7, by decide⟩

/-- What `seven` under the name `k` looks like among the values of a document. -/
def disguised : Bytes := MessagePack.encodeText "k" ++ MessagePack.encodeValue seven

/-- A buffer that starts like a value `k` and goes on with `n` more bytes, in front of `five` under
the name `k`. -/
def overrun (n : Nat) : Document :=
  ⟨{}, [⟨"p", .bytes (disguised ++ List.replicate n 0)⟩, ⟨"k", five⟩]⟩

section Overrun

open MessagePack (Head valueWithin namedWithin documentWithin encodeValue encodeText encodeBinary
  head?_binary_mod)

/-- A buffer `x` whose length is lost with the high bits is read as an empty one, and its bytes are
left for what reads on. -/
theorem valueWithin_encodeBinary_of_lost {x : Bytes} (lost : x.length % 2 ^ 32 = 0)
    (fuel room depth : Nat) (y : Bytes) :
    valueWithin (fuel + 1) room depth (encodeBinary x ++ y) = .ok (.bytes [], x ++ y) := by
  rw [valueWithin, encodeBinary, List.append_assoc, head?_binary_mod, lost]
  rfl

/-- The second value of `overrun` is read from inside the buffer of the first. -/
theorem namedWithin_overrun {n : Nat} (lost : (n + 3) % 2 ^ 32 = 0) (fuel room depth : Nat) :
    ∃ y, namedWithin (fuel + 3) room depth 2 (MessagePack.encodeValues (overrun n).values) =
      .ok ([⟨"p", .bytes []⟩, ⟨"k", seven⟩], y) := by
  have length : (disguised ++ List.replicate n 0).length % 2 ^ 32 = 0 := by
    have three : disguised.length = 3 := by decide
    rw [List.length_append, List.length_replicate, three, Nat.add_comm]
    exact lost
  have first := valueWithin_encodeBinary_of_lost length (fuel + 1) room depth
    (encodeText "k" ++ (encodeValue five ++ []))
  have flat : seven.kind ≠ .array := by decide
  have short : ∀ n ∈ MessagePack.valueLengths seven, n < 2 ^ 32 := by decide
  have second := MessagePack.valueWithin_encodeValue_of_flat flat short fuel room depth
    (List.replicate n 0 ++ (encodeText "k" ++ (encodeValue five ++ [])))
  refine ⟨List.replicate n 0 ++ (encodeText "k" ++ (encodeValue five ++ [])), ?_⟩
  rw [overrun]
  simp only [MessagePack.encodeValues]
  rw [namedWithin, MessagePack.text_encodeText (by decide)]
  simp only [bind, Except.bind]
  rw [encodeValue, first]
  simp only [disguised, List.append_assoc]
  rw [namedWithin, MessagePack.text_encodeText (by decide)]
  simp only [bind, Except.bind]
  rw [second]
  simp only
  rw [namedWithin]
  rfl

/-- A length of `2 ^ 32` is written as zero, so the first bytes of the buffer are read as the value
behind it, and what is left of it is never looked at. -/
theorem decode_overrun {n : Nat} (lost : (n + 3) % 2 ^ 32 = 0) :
    decode .msgpack (MessagePack.encode (overrun n)) =
      .ok ⟨{}, [⟨"p", .bytes []⟩, ⟨"k", seven⟩]⟩ := by
  have titled : 0 < (encodeText "header").length := by decide
  have marked : 0 < (encodeText "values").length := by decide
  have long : 2 ≤ (MessagePack.encode (overrun n)).length := by
    rw [MessagePack.encode_eq, MessagePack.entries]
    simp only [List.length_append]
    omega
  -- how long the encoding is does not matter: it leaves enough steps for two entries
  obtain ⟨fuel, enough⟩ : ∃ k, 2 * (MessagePack.encode (overrun n)).length = k + 3 :=
    ⟨2 * (MessagePack.encode (overrun n)).length - 3, by omega⟩
  obtain ⟨y, read⟩ := namedWithin_overrun lost fuel 1021 0
  have inside : documentWithin (fuel + 3 + 2) (1021 + 1) 0 .empty 2
      (MessagePack.entries (overrun n)) = .ok (⟨{}, [⟨"p", .bytes []⟩, ⟨"k", seven⟩]⟩, y) := by
    have few : (overrun n).values.length < 2 ^ 32 := by simp [overrun]
    have whole := MessagePack.documentWithin_entries_eq
      MessagePack.short_wireFields_initial few (fuel + 3) 1021 0 []
    rw [List.append_nil, List.append_nil] at whole
    exact whole.trans (congrArg (Except.map _) read)
  have decoded : MessagePack.decode (MessagePack.encode (overrun n)) =
      .ok ⟨{}, [⟨"p", .bytes []⟩, ⟨"k", seven⟩]⟩ := by
    rw [MessagePack.decode, MessagePack.head?_encode, enough]
    change (documentWithin (fuel + 3 + 2) (1021 + 1) 0 .empty 2 _ >>= _) = _
    rw [inside]
    rfl
  change (MessagePack.decode _).mapError _ = _
  rw [decoded]
  rfl

end Overrun

/-- Behind a buffer of `2 ^ 32` bytes, `five` is read as `seven`, which stands in the buffer. -/
theorem readAs?_overrun :
    ∃ s read n m, encode .msgpack (overrun (2 ^ 32 - 3)) = .ok s ∧ decode .msgpack s = .ok read ∧
      (overrun (2 ^ 32 - 3)).get? "k" = some n ∧ read.get? "k" = some m ∧
      n.value.readAs? (.integer .int64) = some (.number 5) ∧
      m.value.readAs? (.integer .int64) = some (.number 7) :=
  ⟨_, _, ⟨"k", five⟩, ⟨"k", seven⟩, rfl, decode_overrun (by decide), rfl, rfl, rfl, rfl⟩

end Codec

end Parcel
