import Parcel.Json.Writer
import Parcel.Proofs.Json.Text

/-!
# JSON trees read back

A tree is written without white space, and reading gives the tree back together with whatever
follows it. A number has no end of its own, so what follows it must not continue it; every other
value ends visibly.

## Main definitions

* `Json.Tree.write` — the text of a tree
* `Json.Tree.Proper` — a tree whose strings and numbers follow the grammar
* `Json.Stops` — what cannot continue a number

## Main results

* `Json.number?_write` — numbers read back
* `Json.valueWithin_write`, `Json.parse?_write` — trees read back
-/

namespace Parcel.Json

variable {y : Bytes}

/-! ## Numbers -/

/-- A run of at least one digit. -/
structure IsDigits (digits : Bytes) : Prop where
  nonempty : digits ≠ []
  all : ∀ b ∈ digits, isDigit b

/-- The text of a fraction. -/
def writeFraction : Option Bytes → Bytes
  | none => []
  | some digits => 0x2E :: digits

/-- The text of an exponent, always with a sign. -/
def writeExponent : Option (Bool × Bytes) → Bytes
  | none => []
  | some (negative, digits) => 0x65 :: (if negative then 0x2D else 0x2B) :: digits

/-- The text of a number. -/
def Numeral.write (n : Numeral) : Bytes :=
  (if n.negative then [0x2D] else []) ++
    (n.whole ++ (writeFraction n.fraction ++ writeExponent n.exponent))

/-- A number that follows the grammar. -/
structure Numeral.Proper (n : Numeral) : Prop where
  whole : IsDigits n.whole
  leading : n.whole.head? = some 0x30 → n.whole = [0x30]
  fraction : ∀ digits ∈ n.fraction, IsDigits digits
  exponent : ∀ p ∈ n.exponent, IsDigits p.2

/-- What follows a number and does not continue it. -/
def Stops (y : Bytes) : Prop :=
  ∀ b ∈ y.head?, isDigit b = false ∧ b ≠ 0x2E ∧ b ≠ 0x65 ∧ b ≠ 0x45

theorem digits?_append {digits : Bytes} (run : IsDigits digits)
    (stops : ∀ b ∈ y.head?, isDigit b = false) : digits? (digits ++ y) = some (digits, y) := by
  have taken : (digits ++ y).takeWhile isDigit = digits := by
    rw [List.takeWhile_append_of_pos run.all]
    cases y with
    | nil => simp
    | cons b y => simp [stops b rfl]
  have left : (digits ++ y).dropWhile isDigit = y := by
    rw [List.dropWhile_append_of_pos run.all]
    cases y with
    | nil => rfl
    | cons b y => simp [stops b rfl]
  rw [digits?, taken, left]
  simp [run.nonempty]

theorem fraction?_write {fraction : Option Bytes} (runs : ∀ digits ∈ fraction, IsDigits digits)
    (stops : ∀ b ∈ y.head?, isDigit b = false ∧ b ≠ 0x2E) :
    fraction? (writeFraction fraction ++ y) = some (fraction, y) := by
  cases fraction with
  | none =>
    change fraction? y = _
    cases y with
    | nil => rfl
    | cons b y =>
      rw [fraction?]
      intro _ eq
      exact (stops b rfl).2 (List.cons.inj eq).1
  | some digits =>
    change (digits? (digits ++ y)).map _ = _
    rw [digits?_append (runs digits rfl) fun b mem => (stops b mem).1]
    rfl

theorem exponent?_write {exponent : Option (Bool × Bytes)} (runs : ∀ p ∈ exponent, IsDigits p.2)
    (stops : Stops y) : exponent? (writeExponent exponent ++ y) = some (exponent, y) := by
  cases exponent with
  | none =>
    change exponent? y = _
    cases y with
    | nil => rfl
    | cons b y =>
      obtain ⟨-, -, lower, upper⟩ := stops b rfl
      exact if_neg (not_or.2 ⟨lower, upper⟩)
  | some p =>
    obtain ⟨negative, digits⟩ := p
    have read := digits?_append (runs _ rfl) fun b mem => (stops b mem).1
    cases negative with
    | true =>
      change (digits? (digits ++ y)).map _ = _
      rw [read]
      rfl
    | false =>
      change (digits? (digits ++ y)).map _ = _
      rw [read]
      rfl

/-- Reads a number after its sign. -/
def unsigned? (negative : Bool) (s : Bytes) : Option (Numeral × Bytes) := do
  let (whole, s) ← digits? s
  if whole.head? = some 0x30 ∧ whole ≠ [0x30] then none
  else
    let (fraction, s) ← fraction? s
    let (exponent, s) ← exponent? s
    return (⟨negative, whole, fraction, exponent⟩, s)

/-- Whether there is a minus sign, and what comes after it. -/
def afterSign : Bytes → Bool × Bytes
  | 0x2D :: rest => (true, rest)
  | rest => (false, rest)

theorem number?_eq (s : Bytes) : number? s = unsigned? (afterSign s).1 (afterSign s).2 := rfl

theorem number?_cons {b : UInt8} (unsigned : b ≠ 0x2D) (s : Bytes) :
    number? (b :: s) = unsigned? false (b :: s) := by
  have positive : afterSign (b :: s) = (false, b :: s) := by
    unfold afterSign
    split
    · next eq => exact absurd (List.cons.inj eq).1 unsigned
    · rfl
  rw [number?_eq, positive]

theorem unsigned?_write {n : Numeral} (proper : n.Proper) (stops : Stops y) :
    unsigned? n.negative (n.whole ++ (writeFraction n.fraction ++ writeExponent n.exponent) ++ y) =
      some (n, y) := by
  -- neither a point nor the letter of an exponent is a digit
  have afterWhole : ∀ b ∈ (writeFraction n.fraction ++ (writeExponent n.exponent ++ y)).head?,
      isDigit b = false := by
    cases n.fraction with
    | some digits =>
      rintro b ⟨⟩
      decide
    | none =>
      cases n.exponent with
      | some p =>
        rintro b ⟨⟩
        decide
      | none => exact fun b mem => (stops b mem).1
  have afterFraction : ∀ b ∈ (writeExponent n.exponent ++ y).head?,
      isDigit b = false ∧ b ≠ 0x2E := by
    cases n.exponent with
    | some p =>
      rintro b ⟨⟩
      decide
    | none => exact fun b mem => ⟨(stops b mem).1, (stops b mem).2.1⟩
  have leading : ¬(n.whole.head? = some 0x30 ∧ n.whole ≠ [0x30]) :=
    fun ⟨zero, other⟩ => other (proper.leading zero)
  rw [unsigned?, List.append_assoc, List.append_assoc, digits?_append proper.whole afterWhole]
  simp only [bind, Option.bind, if_neg leading, fraction?_write proper.fraction afterFraction,
    exponent?_write proper.exponent stops]
  rfl

/-- Numbers read back. -/
theorem number?_write {n : Numeral} (proper : n.Proper) (stops : Stops y) :
    number? (n.write ++ y) = some (n, y) := by
  have read := unsigned?_write proper stops
  unfold Numeral.write
  cases negative : n.negative with
  | true =>
    rw [negative] at read
    exact read
  | false =>
    -- the first byte is a digit, so it is not taken for a sign
    rw [negative] at read
    obtain ⟨b, rest, eq⟩ := List.exists_cons_of_ne_nil proper.whole.nonempty
    have digit : isDigit b := proper.whole.all b (eq ▸ List.mem_cons_self)
    have unsigned : b ≠ 0x2D := by
      rintro rfl
      cases digit
    rw [eq] at read ⊢
    exact (number?_cons unsigned _).trans read

/-! ## Trees -/

mutual

/-- The text of a tree, without white space. -/
def Tree.write : Tree → Bytes
  | .null => nullText
  | .bool b => Utf8.encode (if b then "true" else "false")
  | .number n => n.write
  | .string raw => 0x22 :: (raw ++ [0x22])
  | .array items => 0x5B :: (joined (writeItems items) ++ [0x5D])
  | .object members => braced (writeMembers members)

/-- The texts of items. -/
def writeItems : List Tree → List Bytes
  | [] => []
  | item :: rest => item.write :: writeItems rest

/-- The texts of members. -/
def writeMembers : List Member → List Bytes
  | [] => []
  | ⟨key, value⟩ :: rest => (0x22 :: (key ++ [0x22]) ++ 0x3A :: value.write) :: writeMembers rest

end

/-- The inside of a string that ends where it is closed. -/
def Closed (raw : Bytes) : Prop := ∀ y, string? (raw ++ 0x22 :: y) = some (raw, y)

mutual

/-- A tree whose strings and numbers follow the grammar. -/
def Tree.Proper : Tree → Prop
  | .number n => n.Proper
  | .string raw => Closed raw
  | .array items => ProperItems items
  | .object members => ProperMembers members
  | _ => True

/-- Items that follow the grammar. -/
def ProperItems : List Tree → Prop
  | [] => True
  | item :: rest => item.Proper ∧ ProperItems rest

/-- Members that follow the grammar. -/
def ProperMembers : List Member → Prop
  | [] => True
  | ⟨key, value⟩ :: rest => Closed key ∧ value.Proper ∧ ProperMembers rest

end

theorem isSpace_of_isDigit {b : UInt8} (digit : isDigit b) : isSpace b = false := by
  cases space : isSpace b with
  | false => rfl
  | true =>
    simp only [isSpace, Bool.or_eq_true, beq_iff_eq] at space
    rcases space with ((rfl | rfl) | rfl) | rfl <;> cases digit

/-- The first byte of a value: no white space, and not what closes a list. -/
def Opens (s : Bytes) : Prop := ∃ b rest, s = b :: rest ∧ isSpace b = false ∧ b ≠ 0x5D ∧ b ≠ 0x7D

/-- A number starts with a minus sign or a digit. -/
theorem Numeral.start_write {n : Numeral} (proper : n.Proper) :
    ∃ b rest, n.write = b :: rest ∧ (b = 0x2D ∨ isDigit b) := by
  unfold Numeral.write
  cases n.negative with
  | true => exact ⟨_, _, rfl, .inl rfl⟩
  | false =>
    obtain ⟨b, rest, eq⟩ := List.exists_cons_of_ne_nil proper.whole.nonempty
    rw [eq]
    exact ⟨b, _, rfl, .inr (proper.whole.all b (eq ▸ List.mem_cons_self))⟩

theorem Numeral.opens_write {n : Numeral} (proper : n.Proper) : Opens n.write := by
  obtain ⟨b, rest, eq, start⟩ := n.start_write proper
  refine ⟨b, rest, eq, ?_⟩
  rcases start with rfl | digit
  · decide
  · have ne {m : UInt8} (other : isDigit m = false) : b ≠ m := by
      rintro rfl
      rw [digit] at other
      cases other
    exact ⟨isSpace_of_isDigit digit, ne (by decide), ne (by decide)⟩

theorem Tree.opens_write {t : Tree} (proper : t.Proper) : Opens t.write := by
  cases t with
  | null => exact ⟨_, _, rfl, by decide, by decide, by decide⟩
  | bool b =>
    cases b with
    | true => exact ⟨_, _, rfl, by decide, by decide, by decide⟩
    | false => exact ⟨_, _, rfl, by decide, by decide, by decide⟩
  | number n => exact Numeral.opens_write proper
  | string raw => exact ⟨_, _, rfl, by decide, by decide, by decide⟩
  | array items => exact ⟨_, _, rfl, by decide, by decide, by decide⟩
  | object members => exact ⟨_, _, rfl, by decide, by decide, by decide⟩

/-! ## Reading trees -/

theorem skipSpace_cons {b : UInt8} (visible : isSpace b = false) (s : Bytes) :
    skipSpace (b :: s) = b :: s :=
  List.dropWhile_cons_of_neg (by simp [visible])

section Steps

variable {fuel : Nat} {s : Bytes}

theorem valueWithin_string : valueWithin (fuel + 1) (0x22 :: s) =
    (string? s).map fun (raw, rest) => (.string raw, rest) := by
  rw [valueWithin]
  rfl

/-- Only numbers start with a minus sign or a digit. -/
theorem valueWithin_number {b : UInt8} (start : b = 0x2D ∨ isDigit b) :
    valueWithin (fuel + 1) (b :: s) =
      (number? (b :: s)).map fun (n, rest) => (Tree.number n, rest) := by
  have visible : isSpace b = false := by
    rcases start with rfl | digit
    · decide
    · exact isSpace_of_isDigit digit
  have ne {m : UInt8} (other : isDigit m = false) (unsigned : m ≠ 0x2D) : b ≠ m := by
    rintro rfl
    rcases start with rfl | digit
    · exact unsigned rfl
    · rw [digit] at other
      cases other
  rw [valueWithin, skipSpace_cons visible]
  -- every other value starts with a byte of its own
  split
  · next eq => exact absurd (List.cons.inj eq).1 (ne (by decide) (by decide))
  · next eq => exact absurd (List.cons.inj eq).1 (ne (by decide) (by decide))
  · next eq => exact absurd (List.cons.inj eq).1 (ne (by decide) (by decide))
  · next eq => exact absurd (List.cons.inj eq).1 (ne (by decide) (by decide))
  · next eq => exact absurd (List.cons.inj eq).1 (ne (by decide) (by decide))
  · next eq => exact absurd (List.cons.inj eq).1 (ne (by decide) (by decide))
  · rfl

/-- An array whose first item starts visibly. -/
theorem valueWithin_array (opens : Opens s) :
    valueWithin (fuel + 1) (0x5B :: s) =
      (itemsWithin fuel s).map fun (items, rest) => (Tree.array items, rest) := by
  obtain ⟨b, rest, rfl, visible, bracket, -⟩ := opens
  have outer : isSpace 0x5B = false := by decide
  rw [valueWithin, skipSpace_cons outer]
  simp only [skipSpace_cons visible]
  split
  · next eq => exact absurd (List.cons.inj eq).1 bracket
  · rfl

/-- An object whose first key starts visibly. -/
theorem valueWithin_object : valueWithin (fuel + 1) (0x7B :: 0x22 :: s) =
    (membersWithin fuel (0x22 :: s)).map fun (members, rest) => (Tree.object members, rest) := by
  rw [valueWithin]
  rfl

theorem itemsWithin_last {item : Tree} {y : Bytes}
    (read : valueWithin fuel s = some (item, 0x5D :: y)) :
    itemsWithin (fuel + 1) s = some ([item], y) := by
  rw [itemsWithin, read]
  rfl

theorem itemsWithin_cons {item : Tree} {y : Bytes}
    (read : valueWithin fuel s = some (item, 0x2C :: y)) :
    itemsWithin (fuel + 1) s =
      (itemsWithin fuel y).map fun (items, rest) => (item :: items, rest) := by
  rw [itemsWithin, read]
  change (itemsWithin fuel y).bind _ = _
  cases itemsWithin fuel y with
  | none => rfl
  | some p => rfl

theorem membersWithin_last {key : Bytes} {value : Tree} {t y : Bytes}
    (string : string? s = some (key, 0x3A :: t))
    (read : valueWithin fuel t = some (value, 0x7D :: y)) :
    membersWithin (fuel + 1) (0x22 :: s) = some ([⟨key, value⟩], y) := by
  rw [membersWithin]
  change (string? s).bind _ = _
  rw [string]
  change (valueWithin fuel t).bind _ = _
  rw [read]
  rfl

theorem membersWithin_cons {key : Bytes} {value : Tree} {t y : Bytes}
    (string : string? s = some (key, 0x3A :: t))
    (read : valueWithin fuel t = some (value, 0x2C :: y)) :
    membersWithin (fuel + 1) (0x22 :: s) =
      (membersWithin fuel y).map fun (members, rest) => (⟨key, value⟩ :: members, rest) := by
  rw [membersWithin]
  change (string? s).bind _ = _
  rw [string]
  change (valueWithin fuel t).bind _ = _
  rw [read]
  change (membersWithin fuel y).bind _ = _
  cases membersWithin fuel y with
  | none => rfl
  | some p => rfl

end Steps

theorem stops_cons {b : UInt8} (other : isDigit b = false ∧ b ≠ 0x2E ∧ b ≠ 0x65 ∧ b ≠ 0x45)
    (s : Bytes) : Stops (b :: s) := by
  rintro _ ⟨⟩
  exact other

theorem joined_cons_cons (item next : Bytes) (rest : List Bytes) :
    joined (item :: next :: rest) = item ++ 0x2C :: joined (next :: rest) := rfl

/-- The text of items starts like the first of them. -/
theorem opens_joined {item : Tree} (proper : item.Proper) (items : List Tree) (y : Bytes) :
    Opens (joined (writeItems (item :: items)) ++ y) := by
  obtain ⟨b, rest, eq, visible⟩ := item.opens_write proper
  cases items with
  | nil => exact ⟨b, rest ++ y, congrArg (· ++ y) eq, visible⟩
  | cons next items =>
    rw [writeItems, writeItems, joined_cons_cons, eq]
    exact ⟨b, _, rfl, visible⟩

theorem exists_eq_add_one_of_length_write_le {t : Tree} {fuel : Nat} (proper : t.Proper)
    (enough : t.write.length ≤ fuel) :
    ∃ k, fuel = k + 1 := by
  obtain ⟨b, rest, eq, -⟩ := t.opens_write proper
  rw [eq, List.length_cons] at enough
  exact Nat.exists_eq_add_one.2 (Nat.zero_lt_of_lt enough)

/-- A key is followed by the text of its value. -/
theorem string?_key {key : Bytes} (closed : Closed key) (x y : Bytes) :
    string? (key ++ [0x22] ++ 0x3A :: x ++ y) = some (key, 0x3A :: (x ++ y)) := by
  rw [List.append_assoc, List.append_assoc]
  exact closed _

/-- The text of members starts with the quotation mark of the first key. -/
theorem quoted_joined (key : Bytes) (value : Tree) (members : List Member) :
    ∃ rest, joined (writeMembers (⟨key, value⟩ :: members)) = 0x22 :: rest := by
  cases members with
  | nil => exact ⟨_, rfl⟩
  | cons next members =>
    obtain ⟨key', value'⟩ := next
    exact ⟨_, rfl⟩

mutual

/-- A tree that is `Proper` reads back from its text, and what follows it is left. -/
theorem valueWithin_write : (t : Tree) → t.Proper → ∀ (fuel : Nat) (y : Bytes),
    t.write.length ≤ fuel → (∀ n, t = .number n → Stops y) →
      valueWithin fuel (t.write ++ y) = some (t, y)
  | .null, proper, fuel, y, enough, _ => by
    obtain ⟨fuel, rfl⟩ := exists_eq_add_one_of_length_write_le proper enough
    rw [valueWithin]
    rfl
  | .bool b, proper, fuel, y, enough, _ => by
    obtain ⟨fuel, rfl⟩ := exists_eq_add_one_of_length_write_le proper enough
    rw [valueWithin]
    cases b <;> rfl
  | .number n, proper, fuel, y, enough, stops => by
    obtain ⟨fuel, rfl⟩ := exists_eq_add_one_of_length_write_le proper enough
    obtain ⟨b, rest, eq, start⟩ := n.start_write proper
    have read := number?_write proper (stops n rfl)
    rw [Tree.write, eq, List.cons_append, valueWithin_number start]
    rw [eq, List.cons_append] at read
    rw [read]
    rfl
  | .string raw, closed, fuel, y, enough, _ => by
    obtain ⟨fuel, rfl⟩ := exists_eq_add_one_of_length_write_le closed enough
    rw [Tree.write, List.cons_append, valueWithin_string, List.append_assoc]
    change (string? (raw ++ 0x22 :: y)).map _ = _
    rw [closed y]
    rfl
  -- what follows a value in a list is a comma or a closing bracket, and neither continues a number
  | .array [], proper, fuel, y, enough, _ => by
    obtain ⟨fuel, rfl⟩ := exists_eq_add_one_of_length_write_le proper enough
    rw [valueWithin]
    rfl
  | .array (item :: items), proper, fuel, y, enough, _ => by
    obtain ⟨fuel, rfl⟩ := exists_eq_add_one_of_length_write_le proper enough
    rw [Tree.write, List.length_cons, List.length_append, List.length_singleton] at enough
    have inside := itemsWithin_write (item :: items) (List.cons_ne_nil _ _) proper fuel y (by omega)
    rw [Tree.write, List.cons_append, List.append_assoc,
      valueWithin_array (opens_joined proper.1 items _)]
    exact congrArg (Option.map _) inside
  | .object [], proper, fuel, y, enough, _ => by
    obtain ⟨fuel, rfl⟩ := exists_eq_add_one_of_length_write_le proper enough
    rw [valueWithin]
    rfl
  | .object (⟨key, value⟩ :: members), proper, fuel, y, enough, _ => by
    obtain ⟨fuel, rfl⟩ := exists_eq_add_one_of_length_write_le proper enough
    rw [Tree.write, braced, List.length_cons, List.length_append, List.length_singleton] at enough
    have inside :=
      membersWithin_write (⟨key, value⟩ :: members) (List.cons_ne_nil _ _) proper fuel y
        (by omega)
    obtain ⟨rest, quoted⟩ := quoted_joined key value members
    rw [Tree.write, braced, List.cons_append, List.append_assoc]
    rw [quoted] at inside ⊢
    exact valueWithin_object.trans (congrArg (Option.map _) inside)

/-- The items of an array that is not empty. -/
theorem itemsWithin_write : (items : List Tree) → items ≠ [] → ProperItems items →
    ∀ (fuel : Nat) (y : Bytes), (joined (writeItems items)).length < fuel →
      itemsWithin fuel (joined (writeItems items) ++ 0x5D :: y) = some (items, y)
  | [], nonempty, _, _, _, _ => absurd rfl nonempty
  | [item], _, proper, fuel, y, enough => by
    obtain ⟨fuel, rfl⟩ := Nat.exists_eq_add_one.2 (by omega : 0 < fuel)
    have read := valueWithin_write item proper.1 fuel (0x5D :: y) (Nat.le_of_lt_succ enough)
      fun _ _ => stops_cons (by decide) y
    exact itemsWithin_last read
  | item :: next :: items, _, proper, fuel, y, enough => by
    -- the comma pays for the step
    obtain ⟨fuel, rfl⟩ := Nat.exists_eq_add_one.2 (by omega : 0 < fuel)
    rw [writeItems, writeItems, joined_cons_cons, ← writeItems] at enough ⊢
    rw [List.length_append, List.length_cons] at enough
    have read := valueWithin_write item proper.1 fuel
      (0x2C :: (joined (writeItems (next :: items)) ++ 0x5D :: y)) (by omega)
      fun _ _ => stops_cons (by decide) _
    have others := itemsWithin_write (next :: items) (List.cons_ne_nil _ _) proper.2 fuel y
      (by omega)
    rw [List.append_assoc, List.cons_append, itemsWithin_cons read, others]
    rfl

/-- The members of an object that is not empty. -/
theorem membersWithin_write : (members : List Member) → members ≠ [] → ProperMembers members →
    ∀ (fuel : Nat) (y : Bytes), (joined (writeMembers members)).length < fuel →
      membersWithin fuel (joined (writeMembers members) ++ 0x7D :: y) = some (members, y)
  | [], nonempty, _, _, _, _ => absurd rfl nonempty
  | [⟨key, value⟩], _, proper, fuel, y, enough => by
    obtain ⟨fuel, rfl⟩ := Nat.exists_eq_add_one.2 (by omega : 0 < fuel)
    rw [writeMembers, writeMembers, joined] at enough ⊢
    simp only [List.length_append, List.length_cons] at enough
    have read := valueWithin_write value proper.2.1 fuel (0x7D :: y) (by omega)
      fun _ _ => stops_cons (by decide) y
    exact membersWithin_last (string?_key proper.1 value.write _) read
  | ⟨key, value⟩ :: ⟨key', value'⟩ :: members, _, proper, fuel, y, enough => by
    obtain ⟨fuel, rfl⟩ := Nat.exists_eq_add_one.2 (by omega : 0 < fuel)
    rw [writeMembers, writeMembers, joined_cons_cons, ← writeMembers] at enough ⊢
    simp only [List.length_append, List.length_cons] at enough
    have read := valueWithin_write value proper.2.1 fuel
      (0x2C :: (joined (writeMembers (⟨key', value'⟩ :: members)) ++ 0x7D :: y)) (by omega)
      fun _ _ => stops_cons (by decide) _
    have others := membersWithin_write (⟨key', value'⟩ :: members) (List.cons_ne_nil _ _) proper.2.2
      fuel y (by omega)
    rw [List.append_assoc, List.cons_append]
    refine (membersWithin_cons (string?_key proper.1 value.write _) read).trans ?_
    rw [others]
    rfl

end

/-- A tree that is `Proper` is what its text holds. -/
theorem parse?_write {t : Tree} (proper : t.Proper) : parse? t.write = some t := by
  have read := valueWithin_write t proper (t.write.length + 1) [] (Nat.le_succ _)
    fun _ _ b mem => by cases mem
  rw [List.append_nil] at read
  rw [parse?, value?, read]
  rfl

end Parcel.Json
