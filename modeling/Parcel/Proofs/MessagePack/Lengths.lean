import Parcel.MessagePack.Reader
import Parcel.Proofs.MessagePack.Marker
import Parcel.Proofs.Outcome

/-!
# Lengths that are read

A marker counts what follows it with 32 bits at most. So a document that was read has no byte buffer
of `2 ^ 32` bytes or more, whatever the input, and a buffer of that length cannot come back from
MessagePack.

## Main definitions

* `MessagePack.Head.Short` — a head that counts with 32 bits

## Main results

* `MessagePack.short_of_head?` — every head that is read is short
* `MessagePack.length_lt_of_decode` — byte buffers that were read are shorter than `2 ^ 32`
-/

namespace Parcel.MessagePack

variable {s rest : Bytes}

/-- What the head counts is below `2 ^ 32`. Extensions are never kept, so they do not matter. -/
def Head.Short : Head → Prop
  | .text n | .binary n | .array n | .map n => n < 2 ^ 32
  | _ => True

/-! ## Markers -/

theorem foldl_lt (s : Bytes) (start : Nat) :
    s.foldl (fun n b => n * 256 + b.toNat) start < (start + 1) * 256 ^ s.length := by
  induction s generalizing start with
  | nil => simp
  | cons b s ih =>
    have digit : start * 256 + b.toNat + 1 ≤ (start + 1) * 256 := by
      have := b.toNat_lt
      omega
    calc (b :: s).foldl (fun n b => n * 256 + b.toNat) start
        < (start * 256 + b.toNat + 1) * 256 ^ s.length := ih _
      _ ≤ (start + 1) * 256 * 256 ^ s.length := Nat.mul_le_mul_right _ digit
      _ = (start + 1) * 256 ^ (b :: s).length := by
        rw [List.length_cons, Nat.pow_succ', Nat.mul_assoc]

/-- As many bytes as `s` has stand for no larger number than they can. -/
theorem fromBigEndian_lt (s : Bytes) : fromBigEndian s < 256 ^ s.length := by
  simpa [fromBigEndian] using foldl_lt s 0

/-- A number of `width` bytes makes a short head if `make` does so of all such numbers. -/
theorem short_of_counted {width : Nat} {make : Nat → Head} {head : Head}
    (read : counted width make s = some (head, rest)) (short : ∀ n < 256 ^ width, (make n).Short) :
    head.Short := by
  obtain ⟨⟨digits, left⟩, taken, same⟩ := Option.map_eq_some_iff.1 read
  cases same
  have bounded := fromBigEndian_lt digits
  rw [(eq_of_split? taken).1] at bounded
  exact short _ bounded

theorem short_of_signed {width : Nat} {head : Head} (read : signed width s = some (head, rest)) :
    head.Short := by
  obtain ⟨p, -, same⟩ := Option.map_eq_some_iff.1 read
  cases same
  exact True.intro

/-- No marker counts further than `2 ^ 32`. -/
theorem short_of_head? {head : Head} (read : head? s = some (head, rest)) : head.Short := by
  cases s with
  | nil => cases read
  | cons b s =>
    have byte := b.toNat_lt
    unfold head? at read
    dsimp only at read
    split_ifs at read
    case pos | pos | pos | pos | pos =>
      cases read
      first
        | exact True.intro
        | exact Nat.lt_of_le_of_lt (Nat.sub_le _ _) (Nat.lt_trans byte (by decide))
    -- beyond the ranges either the marker is all, or a number is counted off behind it
    split at read
    all_goals first
      | exact short_of_counted read fun _ _ => True.intro
      | exact short_of_counted read fun _ few => Nat.lt_of_lt_of_le few (by decide)
      | exact short_of_signed read
      | cases read <;> exact True.intro

/-! ## Byte buffers -/

theorem eq_some_of_orMalformed {α : Type} {o : Option α} {a : α} (read : orMalformed o = .ok a) :
    o = some a := by
  cases o with
  | none => cases read
  | some b => exact congrArg some (Except.ok.inj read)

/-- A byte buffer `raw` that is read as a value is as long as its marker says, also when it was
marked as text and is no UTF-8. -/
theorem length_lt_of_valueWithin {fuel room depth : Nat} {raw : Bytes}
    (read : valueWithin fuel room depth s = .ok (.bytes raw, rest)) : raw.length < 2 ^ 32 := by
  cases fuel with
  | zero =>
    rw [valueWithin] at read
    cases read
  | succ fuel =>
    rw [valueWithin] at read
    obtain ⟨⟨head, s⟩, first, read⟩ := Except.exists_of_bind_eq_ok read
    have short := short_of_head? (eq_some_of_orMalformed first)
    cases head with
    | text n =>
      obtain ⟨⟨x, left⟩, taken, finish⟩ := Except.exists_of_bind_eq_ok read
      obtain ⟨rfl, -⟩ := eq_of_split? (eq_some_of_orMalformed taken)
      dsimp only at finish
      -- text is a byte buffer only where it is no UTF-8
      split at finish <;> cases finish
      exact short
    | binary n =>
      obtain ⟨⟨x, left⟩, taken, finish⟩ := Except.exists_of_bind_eq_ok read
      obtain ⟨rfl, -⟩ := eq_of_split? (eq_some_of_orMalformed taken)
      cases finish
      exact short
    | integer n natural =>
      obtain ⟨i, -, finish⟩ := Except.exists_of_bind_eq_ok read
      cases finish
    | array n =>
      dsimp only at read
      split at read
      · cases read
      · obtain ⟨⟨items, left⟩, -, finish⟩ := Except.exists_of_bind_eq_ok read
        cases finish
    | map n =>
      dsimp only at read
      split at read
      · cases read
      · split at read
        · cases read
        · obtain ⟨⟨d, left⟩, -, finish⟩ := Except.exists_of_bind_eq_ok read
          cases finish
    | _ => cases read

/-- All byte buffers in a list of values are read one by one. -/
theorem length_lt_of_namedWithin {fuel room depth n : Nat} {values : List Named}
    (read : namedWithin fuel room depth n s = .ok (values, rest)) :
    ∀ m ∈ values, ∀ raw, m.value = .bytes raw → raw.length < 2 ^ 32 := by
  induction n generalizing fuel s values with
  | zero =>
    rw [namedWithin] at read
    cases read
    exact List.forall_mem_nil _
  | succ n ih =>
    cases fuel with
    | zero =>
      rw [namedWithin] at read
      cases read
    | succ fuel =>
      rw [namedWithin] at read
      obtain ⟨⟨name, s⟩, -, read⟩ := Except.exists_of_bind_eq_ok read
      obtain ⟨⟨v, s⟩, first, read⟩ := Except.exists_of_bind_eq_ok read
      obtain ⟨⟨others, s⟩, later, finish⟩ := Except.exists_of_bind_eq_ok read
      cases finish
      refine List.forall_mem_cons.2 ⟨?_, ih later⟩
      rintro raw rfl
      exact length_lt_of_valueWithin first

/-- Of several value lists the last one counts, so what `d` holds need not stay. -/
theorem length_lt_of_documentWithin {fuel room depth n : Nat} {d e : Document}
    (read : documentWithin fuel room depth d n s = .ok (e, rest))
    (before : ∀ m ∈ d.values, ∀ raw, m.value = .bytes raw → raw.length < 2 ^ 32) :
    ∀ m ∈ e.values, ∀ raw, m.value = .bytes raw → raw.length < 2 ^ 32 := by
  induction n generalizing fuel s d with
  | zero =>
    rw [documentWithin] at read
    cases read
    exact before
  | succ n ih =>
    cases fuel with
    | zero =>
      rw [documentWithin] at read
      cases read
    | succ fuel =>
      rw [documentWithin] at read
      obtain ⟨⟨key, s⟩, -, read⟩ := Except.exists_of_bind_eq_ok read
      dsimp only at read
      -- the entry is the header, the values, or one that is skipped
      split at read
      · obtain ⟨⟨header, s⟩, -, read⟩ := Except.exists_of_bind_eq_ok read
        exact ih read before
      · split at read
        · obtain ⟨⟨head, s⟩, -, read⟩ := Except.exists_of_bind_eq_ok read
          split at read
          · split at read
            · cases read
            · obtain ⟨⟨values, s⟩, inside, read⟩ := Except.exists_of_bind_eq_ok read
              exact ih read (length_lt_of_namedWithin inside)
          · cases read
        · obtain ⟨s, -, read⟩ := Except.exists_of_bind_eq_ok read
          exact ih read before

/-- No document that is read has a byte buffer of `2 ^ 32` bytes or more among its values. -/
theorem length_lt_of_decode {d : Document} (read : decode s = .ok d) :
    ∀ n ∈ d.values, ∀ raw, n.value = .bytes raw → raw.length < 2 ^ 32 := by
  obtain ⟨⟨head, rest⟩, -, described⟩ := Except.exists_of_bind_eq_ok read
  dsimp only at described
  split at described
  · obtain ⟨⟨d, left⟩, inside, finish⟩ := Except.exists_of_bind_eq_ok described
    cases finish
    exact length_lt_of_documentWithin inside (List.forall_mem_nil _)
  · cases described

end Parcel.MessagePack
