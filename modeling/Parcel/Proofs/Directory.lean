import Parcel.Directory

/-!
# Files keep their content

A file that was written is found under its path again, with the content that was written. The
directories on the way to it are those that were there before.

## Main results

* `Directory.target_of_write?` — what stands under the path
* `Directory.read_of_write?` — what is read is what was written
-/

namespace Parcel.Directory

variable {entries : List (Path × FileEntry)} {d d' : Directory} {content : Bytes}

theorem lookup_erase {p q : Path} (other : q ≠ p) (d : Directory) :
    (d.erase p).entries.lookup q = d.entries.lookup q := by
  rw [erase]
  dsimp only
  induction d.entries with
  | nil => rfl
  | cons entry entries ih =>
    obtain ⟨r, f⟩ := entry
    rw [List.lookup_cons]
    by_cases erased : r = p
    · rw [List.filter_cons_of_neg (by simpa using erased), ih,
        beq_eq_false_iff_ne.2 (erased ▸ other)]
    · rw [List.filter_cons_of_pos (by simpa using erased), List.lookup_cons, ih]

theorem lookup_put (p : Path) (e : FileEntry) (d : Directory) (q : Path) :
    (d.put p e).entries.lookup q = if q = p then some e else d.entries.lookup q := by
  rw [put, List.lookup_cons]
  by_cases same : q = p
  · rw [if_pos same, beq_iff_eq.2 same]
  · rw [if_neg same, beq_eq_false_iff_ne.2 same, lookup_erase same]

/-- The way to a new file leads over the directories that were there before: `put` leaves it open.
-/
theorem walk_put (d : Directory) (last : String) (content : Bytes) {done way : Path}
    (open_way : walk d.entries done way = .folder) :
    walk (d.put (done ++ way ++ [last]) (.file content)).entries done (way ++ [last]) =
      .file content := by
  induction way generalizing done with
  | nil =>
    rw [List.append_nil, List.nil_append, walk, lookup_put, if_pos rfl]
    rfl
  | cons step way ih =>
    -- the new file is further down, so the next step is what it was
    have other : done ++ [step] ≠ done ++ step :: way ++ [last] := by simp
    rw [walk] at open_way
    rw [List.cons_append, walk, lookup_put, if_neg other]
    cases here : d.entries.lookup (done ++ [step]) with
    | none => simp [here] at open_way
    | some e =>
      cases e with
      | folder =>
        simp only [here] at open_way
        have later := ih open_way
        rw [List.append_assoc, List.append_assoc, List.singleton_append] at later
        rw [List.append_assoc]
        exact later
      | file old =>
        simp only [here] at open_way
        split at open_way <;> cases open_way

/-- What `target` finds under a path is what was written there. -/
theorem target_of_write? {p : Path} (written : d.write? p content = some d') :
    d'.target p = .file content := by
  rw [write?] at written
  split at written
  · next writable =>
    cases written
    obtain ⟨open_way, free⟩ := Bool.and_eq_true_iff.1 writable
    rcases List.eq_nil_or_concat p with rfl | ⟨way, last, rfl⟩
    · -- the directory itself is no file
      simp [target, walk] at free
    · rw [List.concat_eq_append, List.dropLast_concat, beq_iff_eq] at open_way
      rw [List.concat_eq_append]
      exact walk_put d last content open_way
  · cases written

/-- What is read is what was written. -/
theorem read_of_write? {file : String} (written : d.write? (Path.parse file) content = some d') :
    d'.read file = .ok content := by
  rw [read, target_of_write? written]

end Parcel.Directory
