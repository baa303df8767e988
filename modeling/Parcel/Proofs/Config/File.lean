import Parcel.Config.File
import Parcel.Proofs.Directory
import Parcel.Proofs.Toml.Reader
import Parcel.Proofs.Unicode.Utf8

/-!
# Configuration files read back

Every setting is written as a line of its own, with a key that needs no quotation marks and an item
that is read up to the end of the line, whatever the strings contain. So a file that was written is
read as a table of these items, and the settings of that table are the settings that were written.
They are validated as they would have been before.

## Main definitions

* `Config.Line.Plain` — a setting that is read as it was written

## Main results

* `Config.documentLines?_lines` — a document of such settings
* `Config.ofToml?_of_toToml?` — settings as TOML and back
* `Config.load_save` — settings in a file
-/

namespace Parcel.Config

open Toml (Item Table Spells IsBare)

/-! ## Lines -/

section Lines

variable {key : String} {value : List Char} {item : Item} {t : Table}

theorem line_append (rest : List Char) :
    line key value ++ rest = key.toList ++ ' ' :: '=' :: ' ' :: (value ++ '\n' :: rest) := by
  simp [line]

/-- A line adds its `item` to the table under its `key`. -/
theorem line?_line (bare : IsBare key.toList) (spells : Spells value item)
    (fresh : t.lookup key = none) (rest : List Char) :
    Toml.line? ⟨t, []⟩ (line key value ++ rest) = some (⟨t ++ [(key, item)], []⟩, rest) := by
  have blank : Toml.skipBlanks (' ' :: (value ++ '\n' :: rest)) = value ++ '\n' :: rest :=
    spells.tight rest
  have ended : Toml.endOfLine? ('\n' :: rest) = some rest := rfl
  have added : t.insertUnder? [] [key] item = some (t ++ [(key, item)]) := by
    change Table.add? key item t = _
    rw [Table.add?, fresh]
    rfl
  have read := bare.key? (' ' :: (value ++ '\n' :: rest))
  obtain ⟨c, cs, name, first⟩ := bare.exists_cons
  have other {d : Char} : Toml.isKeyChar d = false → c ≠ d := Toml.ne_of_isTrue first
  rw [line_append, name, Toml.line?.eq_def]
  -- what starts like a key is no comment, no header and no empty line
  split
  · next eq => exact absurd (List.cons.inj eq).1 (other (by decide))
  · next eq => exact absurd (List.cons.inj eq).1 (other (by decide))
  · next eq => exact absurd (List.cons.inj eq).1 (other (by decide))
  · next eq => exact absurd (List.cons.inj eq).1 (other (by decide))
  · rw [← name, read, String.ofList_toList]
    simp only [bind, Option.bind_some, Toml.eat?, if_true, blank, spells.read, ended, added, pure]

/-- A setting as it is written, and the item that it is read as. -/
structure Line where
  /-- The key. -/
  key : String
  /-- The text of the item. -/
  value : List Char
  /-- The item. -/
  item : Item

/-- The key needs no quotation marks, and the text is read as the item. -/
structure Line.Plain (l : Line) : Prop where
  bare : IsBare l.key.toList
  spells : Spells l.value l.item

/-- Every line takes a character at least. -/
theorem length_le_flatMap_line (lines : List Line) :
    lines.length ≤ (lines.flatMap fun l => line l.key l.value).length := by
  induction lines with
  | nil => exact Nat.le_refl _
  | cons l lines ih =>
    rw [List.flatMap_cons, List.length_append, line]
    simp only [List.length_append, List.length_cons]
    omega

/-- A document of lines that are `Plain` is read as the table of their items. -/
theorem documentLines?_lines {lines : List Line} {fuel : Nat} (plain : ∀ l ∈ lines, l.Plain)
    (distinct : (t.map Prod.fst ++ lines.map Line.key).Nodup) (enough : lines.length < fuel) :
    Toml.documentLines? fuel ⟨t, []⟩ (lines.flatMap fun l => line l.key l.value) =
      some (t ++ lines.map fun l => (l.key, l.item)) := by
  -- each line leaves a table with one more item and a document with one line less
  induction lines generalizing t fuel with
  | nil =>
    obtain ⟨fuel, rfl⟩ := Nat.exists_eq_add_one_of_ne_zero (Nat.ne_zero_of_lt enough)
    rw [List.map_nil, List.append_nil]
    rfl
  | cons l lines ih =>
    obtain ⟨fuel, rfl⟩ := Nat.exists_eq_add_one_of_ne_zero (Nat.ne_zero_of_lt enough)
    obtain ⟨⟨bare, spells⟩, plain⟩ := List.forall_mem_cons.1 plain
    have fresh : t.lookup l.key = none := by
      rw [List.lookup_eq_none_iff]
      intro p mem
      have different := (List.nodup_append.1 distinct).2.2 p.1 (List.mem_map_of_mem mem) l.key
        List.mem_cons_self
      simpa using different.symm
    have first := line?_line bare spells fresh (lines.flatMap fun l => line l.key l.value)
    have later := @ih (t ++ [(l.key, l.item)]) fuel plain (by simpa using distinct)
      (Nat.lt_of_succ_lt_succ enough)
    have solid := bare.skipBlanks (' ' :: '=' :: ' ' :: (l.value ++ '\n' ::
      lines.flatMap fun l => line l.key l.value))
    obtain ⟨c, cs, name, -⟩ := bare.exists_cons
    rw [line_append, name] at first
    rw [name] at solid
    rw [List.flatMap_cons, Toml.documentLines?, line_append, name, solid]
    change (Toml.line? ⟨t, []⟩ (c :: cs ++ _)).bind _ = _
    rw [first, Option.bind_some]
    refine later.trans ?_
    rw [List.append_assoc]
    rfl

end Lines

/-! ## Settings -/

variable {c : Config}

/-- The settings as lines. -/
def lines (c : Config) : List Line :=
  [⟨"default_message_type", Toml.quote c.messageType.toList, .text c.messageType⟩,
    ⟨"default_version", Toml.quote c.version.toList, .text c.version⟩,
    ⟨"default_format", Toml.quote c.format.name.toList, .text c.format.name⟩,
    ⟨"retain_raw_buffer", (if c.retainsRaw then "true" else "false").toList,
      .boolean c.retainsRaw⟩,
    ⟨"max_document_bytes", Decimal.ofNat c.maxBytes, .integer c.maxBytes⟩]

/-- The settings can be written by `toToml?` when the limit is an integer of TOML. -/
theorem toToml?_eq_some_iff {text : List Char} : c.toToml? = some text ↔
    (c.maxBytes : Int) ≤ Toml.greatestInteger ∧
      text = c.lines.flatMap fun l => line l.key l.value := by
  rw [toToml?]
  split
  · next bounded =>
    rw [Option.some_inj, eq_comm, and_iff_right bounded]
    simp [lines]
  · next beyond => simp [beyond]

theorem plain_lines (bounded : (c.maxBytes : Int) ≤ Toml.greatestInteger) :
    ∀ l ∈ c.lines, l.Plain := by
  have bare : ∀ l ∈ c.lines, IsBare l.key.toList := by
    have keys : ∀ key ∈ c.lines.map Line.key,
        key.toList ≠ [] ∧ key.toList.all Toml.isKeyChar := by
      change ∀ key ∈ ["default_message_type", "default_version", "default_format",
        "retain_raw_buffer", "max_document_bytes"], _
      decide
    intro l mem
    obtain ⟨ne_nil, all⟩ := keys l.key (List.mem_map_of_mem mem)
    exact ⟨ne_nil, all⟩
  have spells : ∀ l ∈ c.lines, Spells l.value l.item := by
    simp only [lines, List.forall_mem_cons]
    exact ⟨Toml.spells_quote _, Toml.spells_quote _, Toml.spells_quote _, Toml.spells_boolean _,
      Toml.spells_ofNat bounded, nofun⟩
  exact fun l mem => ⟨bare l mem, spells l mem⟩

theorem ofTable?_lines (c : Config) : ofTable? (c.lines.map fun l => (l.key, l.item)) = some c := by
  have format : Format.ofName? c.format.name = some c.format := by
    cases c.format <;> decide
  simp [lines, ofTable?, setting?, List.lookup_cons, ofText?, ofFormat?, ofBoolean?, ofSize?,
    format]

/-- What `toToml?` makes of the settings is read by `ofToml?` as these settings. -/
theorem ofToml?_of_toToml? {text : List Char} (written : c.toToml? = some text) :
    ofToml? text = some c := by
  obtain ⟨bounded, rfl⟩ := toToml?_eq_some_iff.1 written
  have distinct : (List.map Prod.fst ([] : Table) ++ c.lines.map Line.key).Nodup := by
    change ["default_message_type", "default_version", "default_format", "retain_raw_buffer",
      "max_document_bytes"].Nodup
    decide
  have read := documentLines?_lines (plain_lines bounded) distinct
    (Nat.lt_succ_of_le (length_le_flatMap_line c.lines))
  have start : (c.lines.flatMap fun l => line l.key l.value).head? = some 'd' := by
    simp [lines, line]
  rw [ofToml?, Toml.read?_eq (by rw [start]; decide), read]
  exact ofTable?_lines c

/-! ## Files -/

/-- The bytes of the settings as TOML are read as these settings, which are validated. -/
theorem read_encodeChars {text : List Char} (written : c.toToml? = some text) (path : String) :
    read path (Utf8.encodeChars text) = (c.validate.mapError .invalid).map fun _ => c := by
  rw [read, Utf8.decode_encodeChars]
  dsimp only
  rw [String.toList_ofList, ofToml?_of_toToml? written]

theorem save_eq_ok_iff {text : List Char} {file : String} {d d' : Directory}
    (written : c.toToml? = some text) : c.save file d = .ok d' ↔
      d.write? (Path.parse file) (Utf8.encodeChars text) = some d' := by
  rw [save, written]
  dsimp only
  cases d.write? (Path.parse file) (Utf8.encodeChars text) with
  | none => exact ⟨nofun, nofun⟩
  | some made => rw [Except.ok.injEq, Option.some.injEq]

/-- Loading a file to which settings were saved is `validate` on them. -/
theorem load_of_save {text : List Char} {file : String} {d d' : Directory}
    (written : c.toToml? = some text) (saved : c.save file d = .ok d') :
    load file d' = (c.validate.mapError .invalid).map fun _ => c := by
  rw [load, Directory.read_of_write? ((save_eq_ok_iff written).1 saved)]
  exact read_encodeChars written _

/-- Settings with a limit that TOML can express are saved wherever `isWritable` holds, and nowhere
else. Loading the file that was saved gives these settings if they are valid, and otherwise the very
rule that they break. -/
theorem load_save {c : Config} (bounded : c.maxBytes ≤ 2 ^ 63 - 1) (file : String) (d : Directory) :
    ((∃ d', c.save file d = .ok d') ↔ d.isWritable (Path.parse file) = true) ∧
      ∀ d', c.save file d = .ok d' →
        (c.validate = .ok () → load file d' = .ok c) ∧
        ∀ rule, c.validate = .error rule → load file d' = .error (.invalid rule) := by
  have expressible : (c.maxBytes : Int) ≤ Toml.greatestInteger := by
    unfold Toml.greatestInteger
    omega
  -- the configuration can be written, so only the directory can refuse
  obtain ⟨text, written⟩ : ∃ text, c.toToml? = some text :=
    ⟨_, toToml?_eq_some_iff.2 ⟨expressible, rfl⟩⟩
  constructor
  · simp only [save_eq_ok_iff written, Directory.write?]
    split
    · next writable => exact iff_of_true ⟨_, rfl⟩ writable
    · next blocked =>
      refine iff_of_false ?_ blocked
      rintro ⟨d', ⟨⟩⟩
  · intro d' saved
    have loaded := load_of_save written saved
    constructor
    · intro valid
      rw [loaded, valid]
      rfl
    · intro rule broken
      rw [loaded, broken]
      rfl

/-- Settings whose strings have quotation marks, backslashes, line ends, controls and characters
outside of ASCII. -/
def quoted : Config where
  messageType := "\"\\\r\n\t\x00\x1b\x7f'é\u2028😀"
  version := " # = ]] \n[x]\n"
  format := .msgpack
  retainsRaw := false
  maxBytes := 2 ^ 63 - 1

theorem load_save_quoted :
    let d := Directory.empty "."
    quoted.maxBytes ≤ 2 ^ 63 - 1 ∧ quoted.validate = .ok () ∧
      ∃ d', quoted.save fileName d = .ok d' ∧ load fileName d' = .ok quoted := by
  intro d
  have bounded : quoted.maxBytes ≤ 2 ^ 63 - 1 := by decide
  have writable : d.isWritable (Path.parse fileName) = true := by decide +kernel
  have valid : quoted.validate = .ok () := rfl
  obtain ⟨saves, loads⟩ := load_save bounded fileName d
  obtain ⟨d', saved⟩ := saves.2 writable
  exact ⟨bounded, valid, d', saved, (loads d' saved).1 valid⟩

end Parcel.Config
