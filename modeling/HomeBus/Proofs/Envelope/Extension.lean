import HomeBus.Proofs.Envelope.Agreement
import HomeBus.Proofs.Json.ObjectText

/-!
# Envelopes with more members

A member that envelopes do not have may be put anywhere between the members of an envelope, with any
value that has the form of JSON, however deep it is and whatever its numbers and strings denote.

Results:
* `readMember_local`: what a member is read as depends on its own text alone.
* `exists_objectText`: an object that is read as an envelope is taken apart into member texts.
* `decode_objectText`: it is read member text by member text.
* `decode_extended`: putting in unknown members does not change the message.
-/

namespace HomeBus.Envelope

open Json (Reader Blank Content Denotes Form Ends MemberText ObjectText memberTexts maxDepth)
open Json.Reader (Takes written)

variable {draft next : Draft} {key : String} {bytes rest rest' left pad v : Bytes} {field : Field}
  {text : MemberText} {m : Message}

/-! ## Members are read where they stand -/

/-- What is read for a member is a document. -/
theorem Field.exists_written_of_read (read : field.read draft bytes = .ok (next, rest)) :
    ∃ w, written (maxDepth - 1) bytes = .ok (w, rest) := by
  have takes {α : Type} {reader : Reader α} {put : α → Draft} (h : Takes (maxDepth - 1) reader)
      (read : store reader put bytes = .ok (next, rest)) :
      ∃ w, written (maxDepth - 1) bytes = .ok (w, rest) := by
    obtain ⟨a, found, -⟩ := store_eq_ok_iff.1 read
    exact h bytes a rest found
  unfold Field.read at read
  cases field with
  | serv | type => exact takes (Reader.takes_text _) read
  | valT => exact takes (Reader.takes_valueType _) read
  | val => exact takes (Reader.takes_value _) read
  | tags => exact takes (Reader.takes_texts _).nullOr read
  | props => exact takes (Reader.takes_textDict _).nullOr read
  | ctime | ver | uid | corid => exact takes (Reader.takes_text _).nullOr read

theorem skipValue_append_of_blank (blank : Blank pad) (form : Form .value v) (ends : Ends rest) :
    Reader.skipValue (pad ++ (v ++ rest)) = .ok ((), rest) :=
  Reader.skipValue_of_spans
    (Json.spans_congr (Json.skipBlank_append blank _).symm (form.spans fun _ => ends))

/-- A value is read up to where its form ends, and is read the same whatever follows. -/
theorem Field.read_local (blank : Blank pad) (form : Form .value v) (ends : Ends rest)
    (read : field.read draft (pad ++ (v ++ rest)) = .ok (next, left)) :
    left = rest ∧ ∀ rest', Ends rest' →
      field.read draft (pad ++ (v ++ rest')) = .ok (next, rest') := by
  obtain ⟨w, found⟩ := Field.exists_written_of_read read
  obtain rfl : left = rest := by
    have skipped := Reader.skipValue_of_written found
    rw [skipValue_append_of_blank blank form ends] at skipped
    exact (congrArg Prod.snd (Except.ok.inj skipped)).symm
  obtain ⟨lead, own, blank', -, split, again⟩ := Json.exists_text_of_written found ends
  refine ⟨rfl, fun rest' ends' => ?_⟩
  rw [← List.append_assoc, ← List.append_assoc] at split
  have there : written (maxDepth - 1) (pad ++ (v ++ rest')) = .ok (w, rest') := by
    rw [← List.append_assoc, List.append_cancel_right split, List.append_assoc]
    exact Json.written_of_skipBlank (Json.skipBlank_append blank' _).symm (again rest' ends')
  have taken : (field.read draft (pad ++ (v ++ left))).toOption = _ :=
    Field.toOption_read found draft
  rw [read] at taken
  obtain ⟨next, here, ⟨⟩⟩ := Option.map_eq_some_iff.1 taken.symm
  refine Outcome.toOption_eq_some_iff.1 ?_
  rw [Field.toOption_read there, here]
  rfl

/-- A member is read up to where its text ends, and is read the same whatever follows. -/
theorem readMember_local (ends : Ends (text.trail ++ rest))
    (read : readMember draft key (text.behind rest) = .ok (next, left)) :
    left = text.trail ++ rest ∧ ∀ rest', Ends (text.trail ++ rest') →
      readMember draft key (text.behind rest') = .ok (next, text.trail ++ rest') := by
  unfold readMember at read ⊢
  cases known : Field.ofName? key with
  | none =>
    simp only [known, text.colon_behind, Outcome.ok_bind,
      skipValue_append_of_blank text.pad_blank text.value_form ends] at read ⊢
    cases read
    refine ⟨rfl, fun rest' ends' => ?_⟩
    rw [skipValue_append_of_blank text.pad_blank text.value_form ends']
    rfl
  | some field =>
    simp only [known, text.colon_behind, Outcome.ok_bind] at read ⊢
    split_ifs at read ⊢
    obtain ⟨rfl, again⟩ := Field.read_local text.pad_blank text.value_form ends read
    exact ⟨rfl, fun rest' => again _⟩

/-- A member that is read ends where its value does. -/
theorem skipValue_of_readMember (read : readMember draft key bytes = .ok (next, left)) :
    ∃ start, Reader.colon bytes = .ok start ∧ Reader.skipValue start = .ok ((), left) := by
  unfold readMember at read
  cases known : Field.ofName? key with
  | none =>
    simp only [known] at read
    obtain ⟨start, colon, read⟩ := Outcome.bind_eq_ok_iff.1 read
    obtain ⟨⟨⟨⟩, behind⟩, skipped, ⟨⟩⟩ := Outcome.bind_eq_ok_iff.1 read
    exact ⟨start, colon, skipped⟩
  | some field =>
    simp only [known] at read
    split_ifs at read
    obtain ⟨start, colon, read⟩ := Outcome.bind_eq_ok_iff.1 read
    obtain ⟨w, found⟩ := Field.exists_written_of_read read
    exact ⟨start, colon, Reader.skipValue_of_written found⟩

/-! ## Member by member -/

/-- Reads the text of a member from its key on. -/
def readText (draft : Draft) (text : MemberText) (rest : Bytes) : Option (Draft × Bytes) :=
  (Json.string (text.named rest)).toOption.bind fun name =>
    (readMember draft name.1 name.2).toOption

/-- What a draft becomes with a member. -/
def takeText (draft : Draft) (text : MemberText) : Option Draft :=
  (readText draft text []).map Prod.fst

theorem readText_eq_some_iff :
    readText draft text rest = some (next, left) ↔
      ∃ key, Json.string (text.named rest) = .ok (key, text.behind rest) ∧
        readMember draft key (text.behind rest) = .ok (next, left) := by
  constructor
  · intro read
    obtain ⟨⟨key, behind⟩, name, here⟩ := Option.bind_eq_some_iff.1 read
    have name := Outcome.toOption_eq_some_iff.1 name
    obtain ⟨rfl, -⟩ := MemberText.string_local name
    exact ⟨key, name, Outcome.toOption_eq_some_iff.1 here⟩
  · rintro ⟨key, name, here⟩
    rw [readText, name, Outcome.toOption_ok, Option.bind_some, here]
    rfl

theorem readText_local (ends : Ends (text.trail ++ rest)) (ends' : Ends (text.trail ++ rest'))
    (read : readText draft text rest = some (next, left)) :
    left = text.trail ++ rest ∧ readText draft text rest' = some (next, text.trail ++ rest') := by
  obtain ⟨key, name, here⟩ := readText_eq_some_iff.1 read
  obtain ⟨rfl, again⟩ := readMember_local ends here
  exact ⟨rfl, readText_eq_some_iff.2
    ⟨key, (MemberText.string_local name).2 rest', again rest' ends'⟩⟩

theorem ends_alone (text : MemberText) : Ends (text.trail ++ []) :=
  Json.ends_append_of_blank text.trail_blank nofun

/-- A member is taken by its own text alone. -/
theorem readText_eq_takeText (draft : Draft) (text : MemberText) (rest : Bytes)
    (ends : Ends (text.trail ++ rest)) :
    readText draft text rest = (takeText draft text).map (·, text.trail ++ rest) := by
  refine Option.ext fun ⟨next, left⟩ => ?_
  constructor
  · intro read
    obtain ⟨rfl, alone⟩ := readText_local ends (ends_alone text) read
    rw [takeText, alone]
    rfl
  · intro found
    obtain ⟨_, taken, ⟨⟩⟩ := Option.map_eq_some_iff.1 found
    unfold takeText at taken
    obtain ⟨⟨_, _⟩, alone, rfl⟩ := Option.map_eq_some_iff.1 taken
    exact (readText_local (ends_alone text) ends alone).2

theorem toOption_membersOf_memberTexts {inner : Bytes} (texts : List MemberText)
    (blank : Blank inner) (rest : Bytes) :
    (Reader.membersOf readMember {} (inner ++ memberTexts true texts rest)).toOption =
      (texts.foldlM takeText {}).map (·, rest) := by
  refine Json.toOption_foldMembers readText_eq_takeText blank ?_
  have := Json.length_lt_memberTexts true texts rest
  rw [List.length_append]
  omega

theorem conclude_eq_ok_iff {read : Except Json.Error (Draft × Bytes)} :
    conclude read = .ok (m, rest) ↔ ∃ draft, read = .ok (draft, rest) ∧ draft.finish = .ok m := by
  constructor
  · intro concluded
    obtain ⟨⟨draft, left⟩, rfl, h⟩ := Outcome.bind_eq_ok_iff.1 concluded
    simp only at h
    cases done : draft.finish with
    | error cause =>
      rw [done] at h
      cases h
    | ok m =>
      rw [done] at h
      cases h
      exact ⟨draft, rfl, done⟩
  · rintro ⟨draft, rfl, done⟩
    rw [conclude, Outcome.ok_bind]
    simp only [done]

/-- An object is an envelope when its members can be read and are complete. -/
theorem decode_object_eq_ok_iff {tail : Bytes} (front : Json.skipBlank bytes = 0x7B :: tail) :
    decode bytes = .ok m ↔
      ∃ draft rest, Reader.membersOf readMember {} tail = .ok (draft, rest) ∧
        draft.finish = .ok m ∧ Json.skipBlank rest = [] := by
  rw [decode_eq_ok_iff, Reader.document_eq_ok_iff, reader_eq, front]
  simp only [↓reduceIte, conclude_eq_ok_iff]
  constructor
  · rintro ⟨rest, ⟨draft, read, done⟩, blank⟩
    exact ⟨draft, rest, read, done, blank⟩
  · rintro ⟨draft, rest, read, done, blank⟩
    exact ⟨rest, ⟨draft, read, done⟩, blank⟩

/-- An object that is read as an envelope is taken apart into member texts. -/
theorem exists_objectText {tail : Bytes} (front : Json.skipBlank bytes = 0x7B :: tail)
    (read : decode bytes = .ok m) : ∃ text : ObjectText, text.bytes = bytes := by
  obtain ⟨draft, rest, read, -, last⟩ := (decode_object_eq_ok_iff front).1 read
  obtain ⟨lead, lead_blank, rfl⟩ := Json.exists_blank_of_skipBlank front
  obtain ⟨trail, trail_blank, rfl⟩ := Json.exists_blank_of_skipBlank last
  obtain ⟨inner, texts, inner_blank, rfl⟩ :=
    Json.exists_memberTexts (fun _ _ _ _ _ => skipValue_of_readMember) read
  refine ⟨⟨lead, inner, texts, trail, lead_blank, inner_blank, trail_blank⟩, ?_⟩
  rw [ObjectText.bytes, List.append_nil]

/-- An object is read as an envelope member text by member text. -/
theorem decode_objectText {text : ObjectText} :
    decode text.bytes = .ok m ↔
      ∃ draft, text.members.foldlM takeText {} = some draft ∧ draft.finish = .ok m := by
  have front : Json.skipBlank text.bytes =
      0x7B :: (text.inner ++ memberTexts true text.members text.trail) :=
    (Json.skipBlank_append text.lead_blank _).trans (Json.skipBlank_of_isBlank (by decide) _)
  have folded := toOption_membersOf_memberTexts text.members text.inner_blank text.trail
  rw [decode_object_eq_ok_iff front]
  constructor
  · rintro ⟨draft, rest, read, done, -⟩
    rw [read] at folded
    obtain ⟨draft, there, ⟨⟩⟩ := Option.map_eq_some_iff.1 folded.symm
    exact ⟨draft, there, done⟩
  · rintro ⟨draft, there, done⟩
    rw [there] at folded
    refine ⟨draft, text.trail, Outcome.toOption_eq_some_iff.1 folded, done, ?_⟩
    have none_left := Json.skipBlank_append text.trail_blank []
    rwa [List.append_nil] at none_left

/-! ## More members -/

/-- The key of a member is none that envelopes have, however it is written. -/
def Unknown (text : MemberText) : Prop :=
  ∃ key : String, Denotes text.key (Utf8.ofText key) ∧ ∀ field : Field, key ≠ field.name

/-- A list of members has all of another one in their order, and unknown ones between them. -/
inductive Extended : List MemberText → List MemberText → Prop where
  | nil : Extended [] []
  | keep {texts more} (text : MemberText) (others : Extended texts more) :
      Extended (text :: texts) (text :: more)
  | insert {texts more} {text : MemberText} (unknown : Unknown text)
      (others : Extended texts more) : Extended texts (text :: more)

/-- An object has the members of another one and unknown ones between them. -/
structure Extends (more text : ObjectText) : Prop where
  lead : more.lead = text.lead
  inner : more.inner = text.inner
  trail : more.trail = text.trail
  members : Extended text.members more.members

theorem takeText_of_unknown (unknown : Unknown text) (draft : Draft) :
    takeText draft text = some draft := by
  obtain ⟨key, denotes, other⟩ := unknown
  have none : Field.ofName? key = none := by
    rw [Option.eq_none_iff_forall_ne_some]
    exact fun field known => other field (Field.ofName?_eq_some_iff.1 known)
  have here : readMember draft key (text.behind []) = .ok (draft, text.trail ++ []) := by
    unfold readMember
    simp only [none, text.colon_behind, Outcome.ok_bind,
      skipValue_append_of_blank text.pad_blank text.value_form (ends_alone text)]
    rfl
  rw [takeText, readText_eq_some_iff.2 ⟨key, Json.string_of_denotes denotes _, here⟩]
  rfl

/-- Unknown members do not change what members are taken for. -/
theorem foldlM_extended {texts more : List MemberText} (extended : Extended texts more)
    (draft : Draft) : more.foldlM takeText draft = texts.foldlM takeText draft := by
  induction extended generalizing draft with
  | nil => rfl
  | keep text others ih =>
    rw [List.foldlM_cons, List.foldlM_cons]
    exact congrArg _ (funext ih)
  | insert unknown others ih =>
    rw [List.foldlM_cons, takeText_of_unknown unknown]
    exact ih draft

/-- An object that is an envelope is a list of members, and with unknown ones put in anywhere
    between them it is an envelope of the same message. -/
theorem decode_extended {tail : Bytes} (object : Json.skipBlank bytes = 0x7B :: tail)
    (read : decode bytes = .ok m) :
    (∃ text : ObjectText, text.bytes = bytes) ∧
      ∀ text more : ObjectText, text.bytes = bytes → Extends more text →
        decode more.bytes = .ok m := by
  refine ⟨exists_objectText object read, ?_⟩
  rintro text more rfl extended
  obtain ⟨draft, folded, done⟩ := decode_objectText.1 read
  rw [← foldlM_extended extended.members] at folded
  exact decode_objectText.2 ⟨draft, folded, done⟩

/-- The members that an envelope must have. -/
def required : List MemberText :=
  [.tight (Utf8.ofText "serv") (Utf8.ofText "\"s\"") (by decide +kernel) (by decide +kernel),
    .tight (Utf8.ofText "type") (Utf8.ofText "\"t\"") (by decide +kernel) (by decide +kernel),
    .tight (Utf8.ofText "val_t") (Utf8.ofText "\"null\"") (by decide +kernel) (by decide +kernel),
    .tight (Utf8.ofText "val") (Utf8.ofText "null") (by decide +kernel) (by decide +kernel),
    .tight (Utf8.ofText "tags") (Utf8.ofText "null") (by decide +kernel) (by decide +kernel),
    .tight (Utf8.ofText "props") (Utf8.ofText "null") (by decide +kernel) (by decide +kernel)]

/-- An array in an array and so on, deeper than a document that is read may be. -/
def deep : Bytes := List.replicate 200 0x5B ++ List.replicate 200 0x5D

/-- A key that is written with an escape. -/
def escaped : Bytes := Utf8.ofText "\\u0078y"

/-- An envelope with the members that it must have. -/
def sparse : ObjectText := .tight required

/-- Unknown members in front of them and at the end: one too deep, one with half a surrogate pair
    and one with a number too large to be read. -/
def crowded : ObjectText := .tight <|
  [MemberText.tight (Utf8.ofText "x") deep (by decide +kernel) (by decide +kernel),
    .tight escaped (Utf8.ofText "\"\\ud800\"") (by decide +kernel) (by decide +kernel)] ++
  required ++ [.tight [] (Utf8.ofText "1e999") (by decide +kernel) (by decide +kernel)]

theorem decode_extended_crowded :
    decode sparse.bytes = .ok { service := "s", msgType := "t" } ∧
      decode crowded.bytes = .ok { service := "s", msgType := "t" } := by
  have object : Json.skipBlank sparse.bytes = 0x7B :: memberTexts true required [] := rfl
  have read : decode sparse.bytes = .ok { service := "s", msgType := "t" } :=
    Outcome.toOption_eq_some_iff.1 (by decide +kernel)
  have others (key : String) (unknown : Field.ofName? key = none) (field : Field) :
      key ≠ field.name := by
    rintro rfl
    rw [field.ofName?_name] at unknown
    cases unknown
  have extended : Extended required crowded.members := by
    refine .insert ⟨"x", by decide +kernel, others _ rfl⟩
      (.insert ⟨"xy", by decide +kernel, others _ rfl⟩ ?_)
    refine .keep _ (.keep _ (.keep _ (.keep _ (.keep _ (.keep _ (.insert ?_ .nil))))))
    exact ⟨"", by decide +kernel, others _ rfl⟩
  exact ⟨read, (decode_extended object read).2 sparse crowded rfl ⟨rfl, rfl, rfl, extended⟩⟩

end HomeBus.Envelope
