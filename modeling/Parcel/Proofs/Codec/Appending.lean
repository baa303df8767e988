import Parcel.Codec.Piecewise
import Parcel.Proofs.Draft

/-!
# Encoding only appends

Written piece by piece behind anything, a document leaves what the buffer held before as it was.
Each writer is compared with the encoding of its format by induction on the document: what the
writer appends is what the encoding says, also when the writing stops early. The text format may
leave the pieces before the stop behind; XML leaves nothing, since its pieces are written aside.

## Main definitions

* `Writing.Drafts` — an action appends the bytes of a draft and ends as the draft does
* `Writing.Composes` — an action appends the items of a result, or ends in its error
* `Json.separated` — items behind others, or as the first ones

## Main results

* `Delimited.drafts_emit`, `Xml.composes_emitDocument`, `Json.appends_emit`,
  `MessagePack.appends_emit` — what each writer appends
* `Codec.drafts_emit` — every writer appends the draft of its format
* `Codec.writeInto_appends` — writing into a buffer against encoding alone
-/

namespace Parcel

/-! ## Actions and drafts -/

namespace Draft

theorem append_assoc (a b c : Draft) : a ++ b ++ c = a ++ (b ++ c) := by
  change (a.append b).append c = a.append (b.append c)
  obtain ⟨s, _ | e⟩ := a
  · obtain ⟨t, _ | e⟩ := b <;> simp [append]
  · rfl

theorem of_append_append (s t : Bytes) (a : Draft) : of s ++ (of t ++ a) = of (s ++ t) ++ a :=
  (append_assoc _ _ a).symm

end Draft

namespace Writing

variable {S : Type}

section Drafts

variable {w v : Writing UInt8 Unit} {a b : Draft}

/-- The action `w` appends what the draft `a` holds, and stops where the draft was stopped. -/
def Drafts (w : Writing UInt8 Unit) (a : Draft) : Prop :=
  Appends w (a.finish.map fun _ => ()) a.bytes

theorem drafts_pure : Drafts (pure ()) (.of []) := .pure ()

theorem drafts_put (s : Bytes) : Drafts (put s) (.of s) := .put s

theorem drafts_require (condition : Bool) (e : Error) :
    Drafts (require condition e) (.require condition e) := by
  cases condition
  · exact .throw e
  · exact .pure ()

theorem Drafts.seq (first : Drafts w a) (next : Drafts v b) :
    Drafts (w >>= fun _ => v) (a ++ b) := by
  obtain ⟨s, _ | e⟩ := a
  · -- The second draft decides how both end.
    obtain ⟨t, _ | e⟩ := b
    · exact Appends.bind first next
    · exact Appends.bind first next
  · exact Appends.halt first

theorem Drafts.wrap (f : Bytes → Bytes) (inner : Drafts w a) :
    Drafts (aside w >>= fun s => put (f s)) (a.wrap f) := by
  obtain ⟨s, _ | e⟩ := a
  · exact Appends.bind (.aside inner) (.put (f s))
  · exact Appends.halt (.aside_halt inner)

end Drafts

section Composes

variable {w v : Writing S Unit} {r q : Except Error (List S)} {s : List S}

/-- The action `w` appends what the result `r` holds. When the result is an error the action ends in
it, after appending anything. -/
def Composes (w : Writing S Unit) (r : Except Error (List S)) : Prop :=
  match r with
  | .ok s => Appends w (.ok ()) s
  | .error e => ∃ s, Appends w (.error e) s

/-- An action that always comes to its end, writing `s`, may stand before one that may fail. -/
theorem Composes.behind (first : Appends v (.ok ()) s) (next : Composes w r) :
    Composes (v >>= fun _ => w) (r.map (s ++ ·)) := by
  cases r with
  | ok t => exact first.bind next
  | error e =>
    obtain ⟨t, next⟩ := next
    exact ⟨s ++ t, first.bind next⟩

/-- An action that always comes to its end, writing `s`, may stand after one that may fail. -/
theorem Composes.ahead (first : Composes w r) (next : Appends v (.ok ()) s) :
    Composes (w >>= fun _ => v) (r.map (· ++ s)) := by
  cases r with
  | ok t => exact Appends.bind first next
  | error e =>
    obtain ⟨t, first⟩ := first
    exact ⟨t, first.halt⟩

theorem Composes.seq (first : Composes w r) (next : Composes v q) :
    Composes (w >>= fun _ => v) (do return (← r) ++ (← q)) := by
  cases r with
  | ok s => exact .behind first next
  | error e =>
    obtain ⟨s, first⟩ := first
    exact ⟨s, first.halt⟩

theorem Composes.checked {condition : Bool} {e : Error} (next : Composes w r) :
    Composes (require condition e >>= fun _ => w) (if condition then r else .error e) := by
  cases condition with
  | true => exact (pure_bind () fun _ => w).symm ▸ next
  | false => exact ⟨[], (Appends.throw e).halt⟩

end Composes

end Writing

/-! ## The text format -/

namespace Delimited

open Writing (Drafts drafts_pure drafts_put drafts_require)

theorem verbatim_eq_append (name : String) (s : Bytes) :
    verbatim name s =
      .require (!hasTerminator s) (Refusal.unusablePayload name).error ++ .of s := by
  rw [verbatim]
  cases hasTerminator s <;> rfl

theorem drafts_verbatim (name : String) (s : Bytes) :
    Drafts (checkVerbatim name s >>= fun _ => Writing.put s) (verbatim name s) := by
  rw [verbatim_eq_append]
  exact (drafts_require _ _).seq (drafts_put s)

theorem drafts_emitFields : (fields : List (Field × String)) →
    Drafts (emitFields fields) (encodeFields fields)
  | [] => drafts_pure
  | (field, value) :: rest => by
    have pieces := (drafts_require (!hasTerminator (Utf8.encode value))
      (Refusal.unusablePayload field.name).error).seq <|
      (drafts_put [Bytes.ofChar '[']).seq <| (drafts_put (numeral field.number)).seq <|
      (drafts_put [Bytes.ofChar ',']).seq <| (drafts_put (Utf8.encode value)).seq <|
      (drafts_put terminator).seq (drafts_emitFields rest)
    rw [emitFields, encodeFields]
    simpa only [checkVerbatim, Draft.of_append_append, List.append_assoc, List.cons_append,
      List.nil_append] using pieces

theorem drafts_emitPair (name : String) (kind : Kind) {value : Writing UInt8 Unit} {a : Draft}
    (inner : Drafts value a) : Drafts (emitPair name kind value) (encodePair name kind a) := by
  have pieces := (drafts_require (isName (Utf8.encode name))
    (Refusal.unusableName name).error).seq <|
    (drafts_put [Bytes.ofChar '[']).seq <| (drafts_put (Utf8.encode name)).seq <|
    (drafts_put [Bytes.ofChar ',']).seq <| (drafts_put (numeral kind.tag)).seq <|
    (drafts_put [Bytes.ofChar ',']).seq <| inner.seq (drafts_put terminator)
  rw [emitPair, encodePair]
  simpa only [Draft.of_append_append, List.append_assoc, List.cons_append,
    List.nil_append] using pieces

theorem drafts_emitBlock {pairs : Writing UInt8 Unit} {a : Draft} (inner : Drafts pairs a) :
    Drafts (emitBlock pairs) (dataBlock a) :=
  (drafts_put _).seq (inner.seq (drafts_put _))

-- The induction follows the writer. A nested document is written aside, and its draft is wrapped.
mutual

theorem drafts_emitValue (name : String) : (v : Value) →
    Drafts (emitValue name v) (encodeValue name v)
  | .null => drafts_pure
  | .bool _ | .integer _ | .float _ | .double _ => drafts_put _
  | .string s => drafts_verbatim name (Utf8.encode s)
  | .bytes s => drafts_verbatim name s
  | .container d => (drafts_emit d).wrap Hex.encode
  | .array items => (drafts_emitBlock (drafts_emitItems 0 items)).wrap Hex.encode

theorem drafts_emitItems (index : Nat) : (items : List Value) →
    Drafts (emitItems index items) (encodeItems index items)
  | [] => drafts_pure
  | v :: rest =>
    (drafts_emitPair _ _ (drafts_emitValue _ v)).seq (drafts_emitItems (index + 1) rest)

theorem drafts_emitValues : (values : List Named) →
    Drafts (emitValues values) (encodeValues values)
  | [] => drafts_pure
  | ⟨name, v⟩ :: rest =>
    (drafts_emitPair _ _ (drafts_emitValue name v)).seq (drafts_emitValues rest)

theorem drafts_emit : (d : Document) → Drafts (emit d) (encode d)
  | ⟨header, values⟩ => by
    have block := drafts_emitBlock (drafts_emitValues values)
    have pieces := (drafts_put (Format.headerMark ++ openBraces)).seq <|
      (drafts_emitFields header.wireFields).seq <| (drafts_put closeBraces).seq block
    rw [emit, encode, encodeHeader]
    simpa only [Draft.append_assoc] using pieces

end

end Delimited

/-! ## XML -/

namespace Xml

open Writing (Appends Composes Drafts)

theorem appends_emitOpen (tag : List Char) :
    Appends (emitOpen tag) (.ok ()) ('<' :: (tag ++ ['>'])) :=
  (Appends.put ['<']).seq ((Appends.put tag).seq (.put ['>']))

theorem appends_emitClose (tag : List Char) :
    Appends (emitClose tag) (.ok ()) ('<' :: '/' :: (tag ++ ['>'])) :=
  (Appends.put ['<', '/']).seq ((Appends.put tag).seq (.put ['>']))

theorem appends_emitEscaped : (text : List Char) →
    Appends (emitEscaped text) (.ok ()) (escape text)
  | [] => .pure ()
  | c :: rest => (Appends.put (escapeChar c)).seq (appends_emitEscaped rest)

/-- An element is its content between the tags. -/
theorem wrapped_eq (tag content : List Char) :
    wrapped tag content = '<' :: (tag ++ ['>']) ++ (content ++ '<' :: '/' :: (tag ++ ['>'])) := by
  simp only [wrapped, List.cons_append, List.append_assoc, List.nil_append]

theorem appends_emitText (tag text : List Char) :
    Appends (emitText tag text) (.ok ()) (wrapped tag (escape text)) := by
  rw [wrapped_eq]
  exact (appends_emitOpen tag).seq ((appends_emitEscaped text).seq (appends_emitClose tag))

theorem appends_emitFields : (fields : List (Field × String)) →
    Appends (emitFields fields) (.ok ()) (fields.flatMap fun (field, value) =>
      wrapped field.name.toList (escape value.toList))
  | [] => .pure ()
  | (field, value) :: rest =>
    (appends_emitText field.name.toList value.toList).seq (appends_emitFields rest)

/-- `wrapped tag` around what the action `w` writes. -/
theorem composes_wrapped (tag : List Char) {w : Writing Char Unit}
    {r : Except Error (List Char)} (inner : Composes w r) :
    Composes (do emitOpen tag; w; emitClose tag) (r.map (wrapped tag)) := by
  have pieces := (inner.ahead (appends_emitClose tag)).behind (appends_emitOpen tag)
  cases r with
  | ok s =>
    rw [Except.map, wrapped_eq]
    exact pieces
  | error e => exact pieces

-- The same induction over characters. What was written before an error is not named, since nothing
-- of it arrives.
mutual

theorem composes_emitValue (tag : List Char) : (v : Value) →
    Composes (emitValue tag v) (encodeValue tag v)
  | .container d => composes_wrapped tag (composes_emitDocument d)
  | .array items => composes_wrapped tag (composes_emitItems items)
  | .null | .bool _ | .integer _ | .float _ | .double _ | .string _ | .bytes _ =>
    appends_emitText tag _

theorem composes_emitItems : (items : List Value) →
    Composes (emitItems items) (encodeItems items)
  | [] => .pure ()
  | v :: rest => (composes_emitValue itemTag v).seq (composes_emitItems rest)

theorem composes_emitValues : (values : List Named) →
    Composes (emitValues values) (encodeValues values)
  | [] => .pure ()
  | ⟨name, v⟩ :: rest =>
    .checked ((composes_emitValue name.toList v).seq (composes_emitValues rest))

theorem composes_emitDocument : (d : Document) →
    Composes (emitDocument d) (encodeDocument d)
  | ⟨header, values⟩ => by
    have closed := (composes_emitValues values).ahead <|
      (appends_emitClose valuesTag).seq (appends_emitClose containerTag)
    have pieces := closed.behind (appends_emitOpen valuesTag)
      |>.behind (appends_emitClose headerTag)
      |>.behind (appends_emitFields header.wireFields)
      |>.behind (appends_emitOpen headerTag)
      |>.behind (appends_emitOpen containerTag)
    rw [emitDocument, encodeDocument]
    cases written : encodeValues values with
    | ok content =>
      rw [written] at pieces
      simpa only [Except.map, wrapped, encodeHeader, List.cons_append, List.append_assoc,
        List.nil_append] using pieces
    | error e =>
      rw [written] at pieces
      exact pieces

end

/-- The pieces that `emit` collects are written aside, so that the bytes arrive whole or not at all.
-/
theorem drafts_emit (d : Document) : Drafts (emit d) (encode d) := by
  have pieces := composes_emitDocument d
  rw [emit, encode]
  cases written : encodeDocument d with
  | ok text =>
    rw [written] at pieces
    exact Appends.bind (.aside pieces) (.put (Utf8.encodeChars text))
  | error e =>
    rw [written] at pieces
    obtain ⟨s, pieces⟩ := pieces
    exact Appends.halt (.aside_halt pieces)

end Xml

/-! ## JSON -/

namespace Json

open Writing (Appends)

/-- The `items` behind others, each after a comma, or as the `first` ones. -/
def separated (first : Bool) (items : List Bytes) : Bytes :=
  if first then joined items else items.flatMap (0x2C :: ·)

theorem separated_nil (first : Bool) : separated first [] = [] := by cases first <;> rfl

theorem joined_cons (item : Bytes) (rest : List Bytes) :
    joined (item :: rest) = item ++ separated false rest := by
  induction rest generalizing item with
  | nil => exact (List.append_nil item).symm
  | cons next rest ih =>
    rw [joined, ih next]
    · rfl
    · exact List.cons_ne_nil next rest

/-- The comma of `emitComma`, or none before the first item, goes with the item that follows. -/
theorem appends_comma (first : Bool) {w : Writing UInt8 Unit} {item : Bytes} {rest : List Bytes}
    (next : Appends w (.ok ()) (item ++ separated false rest)) :
    Appends (emitComma first >>= fun _ => w) (.ok ()) (separated first (item :: rest)) := by
  cases first with
  | true =>
    rw [separated, if_pos rfl, joined_cons]
    exact (Appends.pure ()).seq next
  | false => exact (Appends.put [0x2C]).seq next

theorem appends_emitKey (key : String) : Appends (emitKey key) (.ok ()) (quote key ++ [0x3A]) :=
  (Appends.put (quote key)).seq (.put [0x3A])

theorem appends_emitFields (first : Bool) : (fields : List (Field × String)) →
    Appends (emitFields first fields) (.ok ()) (separated first
      (fields.map fun (field, value) => member field.name (quote value)))
  | [] => separated_nil first ▸ .pure ()
  | (field, value) :: rest => by
    have item := (appends_emitKey field.name).seq <|
      (Appends.put (quote value)).seq (appends_emitFields false rest)
    exact appends_comma first (by
      simpa only [member, List.append_assoc, List.cons_append, List.nil_append] using item)

mutual

theorem appends_emitValue : (v : Value) → Appends (emitValue v) (.ok ()) (encodeValue v)
  | .null | .bool _ | .integer _ | .float _ | .double _ | .string _ => .put _
  | .bytes s => (Appends.put [0x22]).seq ((Appends.put (Hex.encode s)).seq (.put [0x22]))
  | .container d => appends_emit d
  | .array items => (Appends.put [0x5B]).seq ((appends_emitItems true items).seq (.put [0x5D]))

theorem appends_emitItems (first : Bool) : (items : List Value) →
    Appends (emitItems first items) (.ok ()) (separated first (encodeItems items))
  | [] => separated_nil first ▸ .pure ()
  | v :: rest => appends_comma first ((appends_emitValue v).seq (appends_emitItems false rest))

theorem appends_emitMembers (first : Bool) : (values : List Named) →
    Appends (emitMembers first values) (.ok ()) (separated first (encodeMembers values))
  | [] => separated_nil first ▸ .pure ()
  | ⟨name, v⟩ :: rest => by
    have item := (appends_emitKey name).seq <|
      (appends_emitValue v).seq (appends_emitMembers false rest)
    exact appends_comma first (by
      simpa only [member, List.append_assoc, List.cons_append, List.nil_append] using item)

theorem appends_emit : (d : Document) → Appends (emit d) (.ok ()) (encode d)
  | ⟨header, values⟩ => by
    have comma : Appends (emitComma false) (.ok ()) [0x2C] := .put [0x2C]
    have pieces := (Appends.put [0x7B]).seq <| (appends_emitKey "header").seq <|
      (Appends.put [0x7B]).seq <| (appends_emitFields true header.wireFields).seq <|
      (Appends.put [0x7D]).seq <| comma.seq <|
      (appends_emitKey "values").seq <| (Appends.put [0x7B]).seq <|
      (appends_emitMembers true values).seq <| (Appends.put [0x7D]).seq (.put [0x7D])
    rw [emit, encode]
    simpa only [braced, member, joined, separated, List.append_assoc, List.cons_append,
      List.nil_append, if_pos] using pieces

end

end Json

/-! ## MessagePack -/

namespace MessagePack

open Writing (Appends)

theorem appends_emitText (s : String) : Appends (emitText s) (.ok ()) (encodeText s) :=
  (Appends.put _).seq (.put (Utf8.encode s))

theorem appends_emitBinary (s : Bytes) : Appends (emitBinary s) (.ok ()) (encodeBinary s) :=
  (Appends.put _).seq (.put s)

theorem appends_emitFields : (fields : List (Field × String)) →
    Appends (emitFields fields) (.ok ()) (encodeFields fields)
  | [] => .pure ()
  | (field, value) :: rest =>
    (appends_emitText field.name).seq ((appends_emitText value).seq (appends_emitFields rest))

mutual

theorem appends_emitValue : (v : Value) → Appends (emitValue v) (.ok ()) (encodeValue v)
  | .null | .bool _ | .integer _ | .float _ | .double _ => .put _
  | .string s => appends_emitText s
  | .bytes s => appends_emitBinary s
  | .container d => by
    have blob := Appends.aside (S := UInt8) (appends_emit d)
    have pieces := blob.bind (k := emitBinary) (appends_emitBinary (encode d))
    exact pieces
  | .array items => (Appends.put _).seq (appends_emitItems items)

theorem appends_emitItems : (items : List Value) →
    Appends (emitItems items) (.ok ()) (encodeItems items)
  | [] => .pure ()
  | v :: rest => (appends_emitValue v).seq (appends_emitItems rest)

theorem appends_emitValues : (values : List Named) →
    Appends (emitValues values) (.ok ()) (encodeValues values)
  | [] => .pure ()
  | ⟨name, v⟩ :: rest =>
    (appends_emitText name).seq ((appends_emitValue v).seq (appends_emitValues rest))

theorem appends_emit : (d : Document) → Appends (emit d) (.ok ()) (encode d)
  | ⟨header, values⟩ =>
    (Appends.put _).seq <| (appends_emitText "header").seq <| (Appends.put _).seq <|
      (appends_emitFields header.wireFields).seq <| (appends_emitText "values").seq <|
      (Appends.put _).seq (appends_emitValues values)

end

end MessagePack

/-! ## Any format -/

namespace Codec

open Writing (Drafts)

/-- The writer `emit f` appends the draft of its format to whatever the buffer holds. -/
theorem drafts_emit (f : Format) (d : Document) : Drafts (emit f d) (draft f d) := by
  cases f with
  | text => exact Delimited.drafts_emit d
  | json => exact Json.appends_emit d
  | xml => exact Xml.drafts_emit d
  | msgpack => exact MessagePack.appends_emit d

theorem writeInto_eq_encodeInto (f : Format) (p : Bytes) (d : Document) :
    writeInto f p d = encodeInto f p d := by
  rw [writeInto, drafts_emit f d p]
  rfl

/-- XML that cannot be written leaves no draft. -/
theorem draft_xml_of_error {d : Document} {e : Error} (failed : encode .xml d = .error e) :
    draft .xml d = .stop e := by
  change (Xml.encode d).finish = .error e at failed
  change Xml.encode d = .stop e
  rw [Xml.encode] at failed ⊢
  cases written : Xml.encodeDocument d with
  | ok text =>
    rw [written] at failed
    exact nomatch failed
  | error e' =>
    rw [written] at failed
    exact congrArg Draft.stop (Except.error.inj failed)

/-- Writing a document behind the content `p` of a buffer is `encodeInto`, and `encode` is writing
into an empty buffer. When the document can be encoded the buffer ends up with its encoding behind
`p`; when it cannot, the writing ends in the error of the encoding, and `p` is still in front. An
error of XML leaves the buffer as it was, and JSON and MessagePack have no errors. -/
theorem writeInto_appends (f : Format) (d : Document) (p : Bytes) :
    writeInto f p d = encodeInto f p d ∧
      encode f d = (writeInto f [] d).2.map (fun _ => (writeInto f [] d).1) ∧
      match encode f d with
      | .ok s => writeInto f p d = (p ++ s, .ok ())
      | .error e => (writeInto f p d).2 = .error e ∧ p <+: (writeInto f p d).1 ∧
        (f = .xml → (writeInto f p d).1 = p) ∧ f ≠ .json ∧ f ≠ .msgpack := by
  simp only [writeInto_eq_encodeInto, encodeInto, List.nil_append, true_and]
  refine ⟨?_, ?_⟩
  · -- With nothing in front, what the draft wrote is all that the buffer holds.
    rw [encode]
    obtain ⟨s, _ | e⟩ := draft f d <;> rfl
  · cases encoded : encode f d with
    | ok s =>
      rw [Draft.finish_eq_ok_iff.1 encoded]
      rfl
    | error e =>
      have ended : (draft f d).finish = .error e := encoded
      refine ⟨by rw [ended]; rfl, List.prefix_append .., ?_, ?_, ?_⟩
      · rintro rfl
        rw [draft_xml_of_error encoded]
        exact List.append_nil p
      · rintro rfl
        exact nomatch encoded
      · rintro rfl
        exact nomatch encoded

end Codec

end Parcel
