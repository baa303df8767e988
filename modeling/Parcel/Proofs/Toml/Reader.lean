import Parcel.Proofs.Toml.Scalar
import Parcel.Proofs.Toml.Text
import Parcel.Toml.Reader

/-!
# Items and keys read back

An item in the middle of a document is told apart by its first character and read up to the end of
its line; a key is read up to its equality sign.

## Main definitions

* `Toml.Spells` — a text that is read as an item
* `Toml.IsBare` — a name that is read as a key

## Main results

* `Toml.spells_quote`, `Toml.spells_ofNat`, `Toml.spells_boolean`
* `Toml.IsBare.key?`
-/

namespace Parcel.Toml

variable {c : Char} {cs : List Char} {item : Item}

/-- A character that `p` holds of is none that it does not hold of. -/
theorem ne_of_isTrue {p : Char → Bool} {d : Char} (inside : p c) (outside : p d = false) :
    c ≠ d := by
  rintro rfl
  rw [inside] at outside
  cases outside

theorem isBlank_eq_false (space : c ≠ ' ') (tab : c ≠ '\t') : isBlank c = false := by
  simp [isBlank, space, tab]

/-! ## Items -/

/-- The text `value` is read as `item` up to the end of its line, and does not start with a blank.
-/
structure Spells (value : List Char) (item : Item) : Prop where
  tight : ∀ s, skipBlanks (value ++ '\n' :: s) = value ++ '\n' :: s
  read : ∀ s, value? (value ++ '\n' :: s) = some (item, '\n' :: s)

theorem skipBlanks_cons (solid : isBlank c = false) : skipBlanks (c :: cs) = c :: cs :=
  List.dropWhile_cons_of_neg (by simp [solid])

/-- A text between quotation marks. -/
theorem spells_quote (s : String) : Spells (quote s.toList) (.text s) where
  tight _ := skipBlanks_cons (by decide)
  read rest := by
    have read : string? (quote s.toList ++ '\n' :: rest) = some (s.toList, '\n' :: rest) :=
      string?_quote s.toList (by simp)
    rw [value?]
    change Option.map _ (string? (quote s.toList ++ '\n' :: rest)) = _
    rw [read, Option.map_some]
    dsimp only
    rw [String.ofList_toList]

/-- What starts with an `isScalarChar` is read as a scalar. -/
theorem item?_scalar (fuel depth : Nat) (start : isScalarChar c) :
    item? (fuel + 1) depth (c :: cs) = scalar? (c :: cs) := by
  have other {d : Char} : isScalarChar d = false → c ≠ d := ne_of_isTrue start
  unfold item?
  split
  · next eq => exact absurd (List.cons.inj eq).1 (other (by decide))
  · next eq => exact absurd (List.cons.inj eq).1 (other (by decide))
  · next eq => exact absurd (List.cons.inj eq).1 (other (by decide))
  · next eq => exact absurd (List.cons.inj eq).1 (other (by decide))
  · rfl

/-- A scalar. -/
theorem spells_scalar (run : (c :: cs).all isScalarChar)
    (read : classify? (c :: cs) = some item) : Spells (c :: cs) item where
  tight s := by
    have start : isScalarChar c := List.all_eq_true.1 run c List.mem_cons_self
    have other {d : Char} : isScalarChar d = false → c ≠ d := ne_of_isTrue start
    exact skipBlanks_cons (isBlank_eq_false (other (by decide)) (other (by decide)))
  read s := by
    have start : isScalarChar c := List.all_eq_true.1 run c List.mem_cons_self
    rw [value?, List.cons_append, item?_scalar _ _ start, ← List.cons_append]
    exact scalar?_append run read s

/-- A number in decimal digits. -/
theorem spells_ofNat {n : Nat} (bounded : (n : Int) ≤ greatestInteger) :
    Spells (Decimal.ofNat n) (.integer n) := by
  have run : (Decimal.ofNat n).all isScalarChar := by
    refine List.all_eq_true.2 fun d mem => ?_
    have digit : d.isDigit := Nat.isDigit_of_mem_toDigits (by decide) (by decide) mem
    simp [isScalarChar, Char.isAlphanum, digit]
  have read := classify?_ofNat bounded
  obtain ⟨c, cs, eq, -⟩ := Decimal.exists_ofNat_eq_cons n
  rw [eq] at run read ⊢
  exact spells_scalar run read

/-- A truth value. -/
theorem spells_boolean (b : Bool) :
    Spells (if b then "true" else "false").toList (.boolean b) := by
  cases b
  · exact spells_scalar (by decide) rfl
  · exact spells_scalar (by decide) rfl

/-! ## Keys -/

/-- A name that needs no quotation marks. -/
structure IsBare (name : List Char) : Prop where
  ne_nil : name ≠ []
  all : name.all isKeyChar

section IsBare

variable {name : List Char}

theorem IsBare.exists_cons (bare : IsBare name) : ∃ c cs, name = c :: cs ∧ isKeyChar c := by
  obtain ⟨c, cs, rfl⟩ := List.exists_cons_of_ne_nil bare.ne_nil
  exact ⟨c, cs, rfl, List.all_eq_true.1 bare.all c List.mem_cons_self⟩

theorem IsBare.skipBlanks (bare : IsBare name) (s : List Char) :
    Toml.skipBlanks (name ++ s) = name ++ s := by
  obtain ⟨c, cs, rfl, first⟩ := bare.exists_cons
  have other {d : Char} : isKeyChar d = false → c ≠ d := ne_of_isTrue first
  exact skipBlanks_cons (isBlank_eq_false (other (by decide)) (other (by decide)))

/-- A name that `IsBare` is a key without quotation marks. -/
theorem IsBare.key? (bare : IsBare name) (s : List Char) :
    key? (name ++ ' ' :: '=' :: s) = some ([String.ofList name], '=' :: s) := by
  have chars : ∀ d ∈ name, isKeyChar d := List.all_eq_true.1 bare.all
  have taken : (name ++ ' ' :: '=' :: s).takeWhile isKeyChar = name := by
    rw [List.takeWhile_append_of_pos chars, List.takeWhile_cons_of_neg (by decide), List.append_nil]
  have left : (name ++ ' ' :: '=' :: s).dropWhile isKeyChar = ' ' :: '=' :: s := by
    rw [List.dropWhile_append_of_pos chars, List.dropWhile_cons_of_neg (by decide)]
  have one : name? (name ++ ' ' :: '=' :: s) = some (name, ' ' :: '=' :: s) := by
    rw [name?, taken, left]
    obtain ⟨c, cs, rfl, -⟩ := bare.exists_cons
    rfl
  rw [Toml.key?, names?, bare.skipBlanks, one]
  rfl

end IsBare

/-! ## Documents -/

/-- A document that does not start with a byte order mark is read from its first character on. -/
theorem read?_eq {s : List Char} (unmarked : s.head? ≠ some '\ufeff') :
    read? s = documentLines? (s.length + 1) ⟨[], []⟩ s := by
  rw [read?]
  rintro rest rfl
  exact unmarked rfl

end Parcel.Toml
