import HomeBus.Proofs.Envelope.Agreement
import HomeBus.Proofs.Json.Reread

/-!
# Messages on the wire and back

Results:
* `decode_encodeOrdered_reread`: a message whose value is not too deep is read back from its bytes,
  up to what the writer left out and what becomes of doubles.
* `decode_encodeOrdered`: a message without doubles is read back as it is.
* `decode_encodeOrdered_of_deep`: a message with a deeper value is refused for its depth.
* `canonical_of_decode`: the value of a message that was read is canonical and not too deep.
* `json_roundTrip`: what becomes of a message that is written and read, by either codec.
* `decode_relayed`: a message that was read can be written and read again.
-/

namespace HomeBus.Envelope

open Json (Reader Decoder maxDepth)
open Json.Reader (written)

variable {m : Message} {props : List (String × String)} {draft : Draft}

/-- What is left of a message when `corid` is written or not. -/
def delivered (emitCorid : Bool) (m : Message) : Message :=
  if emitCorid then m else { m with corid := "" }

/-! ## The members of an envelope -/

@[simp] theorem Field.name_inj {a b : Field} : a.name = b.name ↔ a = b :=
  ⟨Field.name_injective, congrArg Field.name⟩

theorem keys_members (emitCorid : Bool) (props : List (String × String)) (m : Message) :
    (Entries.keys (members emitCorid props m)).Sublist (Field.all.map Field.name) := by
  unfold members
  split_ifs
  · exact .refl _
  · exact List.sublist_append_left (Field.all.map Field.name |>.take 9) [Field.corid.name]

theorem count_members (emitCorid : Bool) (props : List (String × String)) (m : Message)
    (field : Field) : (Entries.keys (members emitCorid props m)).count field.name ≤ 1 := by
  refine Nat.le_trans ((keys_members emitCorid props m).count_le _) ?_
  cases field <;> decide

/-- What is written for a member. -/
def Field.written (emitCorid : Bool) (props : List (String × String)) (m : Message) :
    Field → Option Json
  | .serv => some (.str m.service)
  | .type => some (.str m.msgType)
  | .valT => some (.str m.valueType.tag)
  | .val => some m.value
  | .tags => some (.arr (m.tags.map .str))
  | .props => some (.obj (props.map Decoder.textMember))
  | .ctime => some (.str m.ctime)
  | .ver => some (.str m.ver)
  | .uid => some (.str m.uid)
  | .corid => if emitCorid && m.corid ≠ "" then some (.str m.corid) else none

theorem given_members (emitCorid : Bool) (props : List (String × String)) (m : Message)
    (field : Field) :
    given (.obj (members emitCorid props m)) field = field.written emitCorid props m := by
  rw [given, givenMembers, members]
  cases field with
  | corid =>
    rw [Field.written]
    split_ifs <;> simp [Entries.get?]
  | _ => simp [Entries.get?, Field.written, Decoder.textMember]

/-- All but `corid` is delivered. -/
theorem carries_delivered_iff {field : Field} (ne : field ≠ .corid) (emitCorid : Bool)
    (said : Option Json) : field.Carries (delivered emitCorid m) said ↔ field.Carries m said := by
  cases emitCorid with
  | true => exact Iff.rfl
  | false =>
    cases field with
    | corid => exact absurd rfl ne
    | _ => exact Iff.rfl

/-- What is written for a member is what is delivered of it. -/
theorem carries_written (emitCorid : Bool) (perm : props.Perm m.props.entries)
    (canonical : m.value.Canonical) (field : Field) :
    field.Carries (delivered emitCorid m)
      ((field.written emitCorid props m).map Json.collapse) := by
  by_cases corid : field = .corid
  · subst corid
    cases emitCorid with
    | false => exact .inl ⟨.inl rfl, rfl⟩
    | true =>
      rw [Field.written]
      by_cases empty : m.corid = ""
      · rw [empty]
        exact .inl ⟨.inl rfl, empty⟩
      · rw [if_pos (by simpa using empty)]
        exact .inr rfl
  · rw [carries_delivered_iff corid]
    cases field with
    | serv | type => rfl
    | valT => exact .inl rfl
    | val => exact congrArg some (Json.collapse_of_canonical canonical)
    | tags =>
      refine .inr (congrArg some ?_)
      exact Json.collapse_of_canonical (Decoder.canonical_texts m.tags)
    | props =>
      refine .inr (congrArg some ?_)
      exact Decoder.collapse_textMembers perm m.props.sorted
    | ctime | ver | uid => exact .inr rfl
    | corid => exact absurd rfl corid

/-! ## Reading back -/

/-- What holds of texts, lists of texts and objects of texts holds of all members when it holds of
    the value. -/
theorem forall_mem_members_iff {P : Json → Prop} (emitCorid : Bool)
    (text : ∀ s, P (.str s)) (list : ∀ l : List String, P (.arr (l.map .str)))
    (dict : P (.obj (props.map Decoder.textMember))) :
    (∀ member ∈ members emitCorid props m, P member.2) ↔ P m.value := by
  constructor
  · intro all
    exact all (Field.val.name, m.value) (by simp [members])
  · intro value
    unfold members
    split_ifs
    all_goals
      simp only [List.forall_mem_append, List.forall_mem_cons, List.not_mem_nil, false_implies,
        implies_true, and_true]
    · exact ⟨⟨text _, text _, text _, value, list _, dict, text _, text _, text _⟩, text _⟩
    · exact ⟨text _, text _, text _, value, list _, dict, text _, text _, text _⟩

theorem depth_members (emitCorid : Bool) (props : List (String × String)) (m : Message) :
    (Json.obj (members emitCorid props m)).depth ≤ maxDepth ↔ m.value.depth ≤ maxDepth - 1 := by
  have room : 1 ≤ maxDepth - 1 := by decide
  rw [Json.depth, show maxDepth = maxDepth - 1 + 1 from rfl, Nat.add_le_add_iff_right,
    Json.membersDepth_le_iff]
  refine forall_mem_members_iff (P := fun v => v.depth ≤ maxDepth - 1) emitCorid ?_ ?_ ?_
  · exact fun _ => Nat.zero_le _
  · exact fun l => (Decoder.depth_texts_le l).trans room
  · exact (Decoder.depth_textMembers_le props).trans room

/-- A message with all doubles in its value read again. -/
def reread (m : Message) : Message := { m with value := m.value.reread }

theorem reread_of_integral (integral : m.value.Integral) : reread m = m := by
  rw [reread, Json.reread_of_integral integral]

/-- Only the value of a message may have doubles in it. -/
theorem reread_members (emitCorid : Bool) (props : List (String × String)) (m : Message) :
    (Json.obj (members emitCorid props m)).reread = .obj (members emitCorid props (reread m)) := by
  have tags := Json.reread_of_integral (Decoder.integral_texts m.tags)
  have dict := Json.reread_of_integral (Decoder.integral_textMembers props)
  have texts (s : String) : (Json.str s).reread = .str s := rfl
  have corid : (reread m).corid = m.corid := rfl
  unfold Decoder.textMember at dict
  rw [Json.reread, Json.rereadMembers_eq_map, members, members, List.map_append, corid]
  split_ifs <;> simp only [List.map_cons, List.map_nil, tags, dict, texts, reread]

/-- The wire bytes of a message hold the members that were written, doubles read again. -/
theorem document_encodeOrdered_reread (emitCorid : Bool) (props : List (String × String))
    (fits : m.value.depth ≤ maxDepth - 1) :
    Reader.document (written maxDepth) (encodeOrdered emitCorid props m) =
      .ok (.obj (members emitCorid props (reread m))) := by
  have ends : Json.Ends [] := nofun
  have read := Json.written_bytes (.obj (members emitCorid props m)) maxDepth ends
  rw [Json.fit_of_le ((depth_members emitCorid props m).2 fits), List.append_nil, Except.map,
    reread_members] at read
  exact Reader.document_eq_ok_iff.2 ⟨[], read, rfl⟩

/-- The wire bytes of a message without doubles hold the members that were written. -/
theorem document_encodeOrdered (emitCorid : Bool) (props : List (String × String))
    (integral : m.value.Integral) (fits : m.value.depth ≤ maxDepth - 1) :
    Reader.document (written maxDepth) (encodeOrdered emitCorid props m) =
      .ok (.obj (members emitCorid props m)) := by
  rw [document_encodeOrdered_reread emitCorid props fits, reread_of_integral integral]

/-- The document of the members that are written holds the message that is delivered. -/
theorem ofJson_members (emitCorid : Bool) (perm : props.Perm m.props.entries)
    (canonical : m.value.Canonical) :
    ofJson (Json.obj (members emitCorid props m)).collapse = .ok (delivered emitCorid m) := by
  have ordered := Json.canonical_collapse (.obj (members emitCorid props m))
  rw [ofJson_eq_ok_iff,
    decoder_eq_ok_iff (canonical_givenMembers ordered) (count_givenMembers ordered)]
  refine ⟨trivial, fun field => ?_⟩
  rw [given, get?_givenMembers_collapse (count_members emitCorid props m),
    Json.collapseMembers_eq_map, Entries.get?_map]
  change field.Carries _ ((given (.obj (members emitCorid props m)) field).map Json.collapse)
  rw [given_members]
  exact carries_written emitCorid perm canonical field

/-- A message whose value is not too deep is read back with its doubles read again, whatever the
    order of its properties. -/
theorem decode_encodeOrdered_reread (emitCorid : Bool) (perm : props.Perm m.props.entries)
    (canonical : m.value.Canonical) (fits : m.value.depth ≤ maxDepth - 1) :
    decode (encodeOrdered emitCorid props m) = .ok (delivered emitCorid (reread m)) := by
  have once : Unrepeated (.obj (members emitCorid props (reread m))) := by
    refine ⟨count_members emitCorid props (reread m), fun inside said => ?_⟩
    rw [given_members] at said
    cases said
  have texts : OverwritesTexts (.obj (members emitCorid props (reread m))) := by
    intro inside said
    rw [given_members] at said
    cases said
    exact List.pairwise_map.2 (List.pairwise_of_forall fun a b _ => ⟨a.2, rfl⟩)
  have text := document_encodeOrdered_reread emitCorid props fits
  rw [decode_eq_ok_iff_ofJson once text, and_iff_left texts]
  exact ofJson_members emitCorid perm (Json.canonical_reread canonical)

/-- A message without doubles is read back as it is. -/
theorem decode_encodeOrdered (emitCorid : Bool) (perm : props.Perm m.props.entries)
    (canonical : m.value.Canonical) (integral : m.value.Integral)
    (fits : m.value.depth ≤ maxDepth - 1) :
    decode (encodeOrdered emitCorid props m) = .ok (delivered emitCorid m) := by
  rw [decode_encodeOrdered_reread emitCorid perm canonical fits, reread_of_integral integral]

/-! ## Values that are too deep -/

/-- A text that was written is read. -/
theorem text_bytes (s : String) (rest : Bytes) :
    Reader.text (Json.bytes (.str s) ++ rest) = .ok (s, rest) := by
  rw [Json.bytes_str, List.cons_append, Reader.text, Json.skipBlank_of_isBlank (by decide)]
  simp only [↓reduceIte, Json.string_textBody, Json.formed]

theorem valueType_bytes (t : ValueType) (rest : Bytes) :
    ValueType.reader (Json.bytes (.str t.tag) ++ rest) = .ok (t, rest) := by
  rw [Json.bytes_str, List.cons_append, ValueType.reader, Json.skipBlank_of_isBlank (by decide)]
  simp only [↓reduceIte, Json.string_textBody, Json.formed, bind, Except.bind,
    Decoder.ofTag_eq_ok_iff.2 rfl]
  rfl

/-- A new member of an envelope is read from the colon on. -/
theorem readMember_name {field : Field} (new : draft.has field = false) (bytes : Bytes) :
    readMember draft field.name (0x3A :: bytes) = field.read draft bytes := by
  rw [readMember, field.ofName?_name]
  simp only [new, Bool.false_eq_true, ↓reduceIte]
  rfl

/-- A message whose value is too deep is refused for its depth. -/
theorem decode_encodeOrdered_of_deep (emitCorid : Bool) (props : List (String × String))
    (deep : maxDepth - 1 < m.value.depth) :
    decode (encodeOrdered emitCorid props m) = .error (.codec (.json (.malformed .tooDeep))) := by
  have value (rest : Bytes) (ends : Json.Ends rest) :
      Reader.value (maxDepth - 1) (Json.bytes m.value ++ rest) = Json.malformed .tooDeep := by
    rw [Reader.value_eq_written, Json.written_bytes m.value _ ends, Json.fit_of_lt deep]
    rfl
  obtain ⟨more, split⟩ : ∃ more, members emitCorid props m =
      (Field.serv.name, .str m.service) :: (Field.type.name, .str m.msgType) ::
        (Field.valT.name, .str m.valueType.tag) :: (Field.val.name, m.value) :: more := ⟨_, rfl⟩
  have refused : Reader.membersOf readMember {}
      (Utf8.encode (Json.renderMembers (members emitCorid props m)) ++ [0x7D]) =
      Json.malformed .tooDeep := by
    obtain ⟨rounds, enough, read⟩ := Json.membersOf_cons readMember
      (Field.serv.name, .str m.service) ((Field.type.name, .str m.msgType) ::
        (Field.valT.name, .str m.valueType.tag) :: (Field.val.name, m.value) :: more) {} []
    obtain ⟨rounds, rfl⟩ : ∃ n, rounds = n + 1 + 1 + 1 := by
      simp only [List.length_cons] at enough
      exact ⟨rounds - 3, by omega⟩
    -- The three members before the value are texts, which are read.
    rw [split, read, List.cons_append, readMember_name rfl, Field.read,
      store_of_read (text_bytes ..), Outcome.ok_bind]
    rw [Json.foldMembers_more, List.cons_append, readMember_name rfl, Field.read,
      store_of_read (text_bytes ..), Outcome.ok_bind]
    rw [Json.foldMembers_more, List.cons_append, readMember_name rfl, Field.read,
      store_of_read (valueType_bytes ..), Outcome.ok_bind]
    rw [Json.foldMembers_more, List.cons_append, readMember_name rfl, Field.read, store,
      value _ (Json.ends_moreMembers more []), Json.malformed]
    simp only [Outcome.error_bind]
    rfl
  have whole : reader (encodeOrdered emitCorid props m) = Json.malformed .tooDeep := by
    rw [encodeOrdered, Json.bytes_obj, reader_eq, Json.skipBlank_of_isBlank (by decide)]
    simp only [↓reduceIte]
    rw [refused, conclude, Json.malformed, Outcome.error_bind]
    rfl
  rw [decode, Reader.document, whole, Json.malformed, Outcome.error_bind]

/-! ## Messages that were read -/

/-- The value of a draft, if it was read, is canonical and not too deep. -/
def Sound (draft : Draft) : Prop :=
  ∀ v, draft.val = some v → v.Canonical ∧ v.depth ≤ maxDepth - 1

theorem Sound.read {field : Field} {bytes rest : Bytes} {next : Draft} (sound : Sound draft)
    (read : field.read draft bytes = .ok (next, rest)) : Sound next := by
  unfold Field.read at read
  cases field with
  | val =>
    obtain ⟨v, found, rfl⟩ := store_eq_ok_iff.1 read
    rintro _ ⟨⟩
    exact Reader.canonical_of_value found
  | _ =>
    obtain ⟨a, -, rfl⟩ := store_eq_ok_iff.1 read
    exact sound

theorem Sound.readMember {key : String} {bytes rest : Bytes} {next : Draft} (sound : Sound draft)
    (read : readMember draft key bytes = .ok (next, rest)) : Sound next := by
  unfold Envelope.readMember at read
  cases named : Field.ofName? key with
  | none =>
    rw [named] at read
    obtain ⟨_, -, read⟩ := Outcome.bind_eq_ok_iff.1 read
    obtain ⟨_, -, ⟨⟩⟩ := Outcome.bind_eq_ok_iff.1 read
    exact sound
  | some field =>
    rw [named] at read
    simp only at read
    split_ifs at read
    obtain ⟨_, -, read⟩ := Outcome.bind_eq_ok_iff.1 read
    exact sound.read read

theorem Sound.readItems {fields : List Field} {taken : ℕ} {bytes rest : Bytes} {next : Draft}
    (sound : Sound draft) (read : readItems taken draft fields bytes = .ok (next, rest)) :
    Sound next := by
  induction fields generalizing taken draft bytes with
  | nil =>
    obtain ⟨_, -, ⟨⟩⟩ := Outcome.bind_eq_ok_iff.1 read
    exact sound
  | cons field fields ih =>
    rw [readItems_cons] at read
    cases front : Json.skipBlank bytes with
    | nil =>
      rw [front] at read
      cases read
    | cons b tail =>
      rw [front] at read
      simp only at read
      split_ifs at read
      obtain ⟨_, -, read⟩ := Outcome.bind_eq_ok_iff.1 read
      obtain ⟨_, value, read⟩ := Outcome.bind_eq_ok_iff.1 read
      exact ih (sound.read value) read

theorem canonical_of_conclude {read : Except Json.Error (Draft × Bytes)} {rest : Bytes}
    (sound : ∀ draft left, read = .ok (draft, left) → Sound draft)
    (done : conclude read = .ok (m, rest)) : m.value.Canonical ∧ m.value.depth ≤ maxDepth - 1 := by
  obtain ⟨⟨draft, left⟩, found, done⟩ := Outcome.bind_eq_ok_iff.1 done
  simp only at done
  cases finished : draft.finish with
  | error e =>
    rw [finished] at done
    cases done
  | ok m' =>
    rw [finished] at done
    cases done
    exact sound draft _ found m.value (Draft.finish_eq_ok_iff.1 finished .val)

/-- The value of a message that was read is canonical and not too deep. -/
theorem canonical_of_decode {bytes : Bytes} (received : decode bytes = .ok m) :
    m.value.Canonical ∧ m.value.depth ≤ maxDepth - 1 := by
  obtain ⟨rest, read, -⟩ := Reader.document_eq_ok_iff.1 (decode_eq_ok_iff.1 received)
  have empty : Sound {} := nofun
  rw [reader_eq] at read
  cases front : Json.skipBlank bytes with
  | nil =>
    rw [front] at read
    cases read
  | cons b tail =>
    rw [front] at read
    simp only at read
    split_ifs at read
    · refine canonical_of_conclude (fun draft left members => ?_) read
      exact Reader.foldMembers_keeps (fun _ _ _ _ _ sound => sound.readMember) empty members
    · exact canonical_of_conclude (fun draft left items => empty.readItems items) read
    · unfold Reader.refuse at read
      cases found : Reader.foundAt (b :: tail) <;> rw [found] at read <;> cases read

/-! ## Round trips -/

/-- Whether a codec writes `corid` or not, it reads the same. -/
theorem decode_codec (emitCorid : Bool) : (Codec.json emitCorid).decode = decode := rfl

/-- Every message without doubles is written, and is read back exactly when its value is not too
    deep: by a codec that does not write `corid` without it. -/
theorem json_roundTrip (emitCorid : Bool) (m : Message) (canonical : m.value.Canonical)
    (integral : m.value.Integral) :
    (Codec.json emitCorid).encode m = .ok (encodeOrdered emitCorid m.props.entries m) ∧
      ∀ props, props.Perm m.props.entries →
        (m.value.depth ≤ 126 →
          (Codec.json emitCorid).decode (encodeOrdered emitCorid props m) =
            .ok (if emitCorid then m else { m with corid := "" })) ∧
        (126 < m.value.depth →
          (Codec.json emitCorid).decode (encodeOrdered emitCorid props m) =
            .error (.codec (.json (.malformed .tooDeep)))) := by
  have decoded : (Codec.json emitCorid).decode = decode := rfl
  rw [decoded]
  refine ⟨rfl, fun props perm => ⟨fun fits => ?_, fun deep => ?_⟩⟩
  · exact decode_encodeOrdered emitCorid perm canonical integral fits
  · exact decode_encodeOrdered_of_deep emitCorid props deep

/-- A message with two properties that answers another one. -/
def answer : Message where
  service := "s"
  msgType := "t"
  valueType := .object
  value := .obj [("k", .arr [.num (.int (-1) (by decide)), .str "\n", .null])]
  props := ⟨[("a", "1"), ("b", "2")], by unfold Entries.Sorted; decide⟩
  uid := "u"
  corid := "c"

/-- Its properties may be written in the other order. -/
theorem json_roundTrip_answer :
    answer.value.Canonical ∧ answer.value.Integral ∧
      (Codec.json false).decode (encodeOrdered false [("b", "2"), ("a", "1")] answer) =
        .ok { answer with corid := "" } := by
  have canonical : answer.value.Canonical := by
    simp [answer, Json.Canonical, Json.CanonicalMembers, Json.CanonicalItems, Entries.Sorted]
  have integral : answer.value.Integral := by
    simp [answer, Json.Integral, Json.IntegralMembers, Json.IntegralItems]
  refine ⟨canonical, integral, ?_⟩
  exact ((json_roundTrip false answer canonical integral).2 _ (.swap ..)).1 (by decide)

/-- Whatever a message was read from, it can be written and read again. -/
theorem decode_relayed {bytes : Bytes} (received : decode bytes = .ok m)
    (integral : m.value.Integral) (perm : props.Perm m.props.entries) :
    decode (encodeOrdered true props m) = .ok m ∧
      decode (encodeOrdered false props m) = .ok { m with corid := "" } := by
  obtain ⟨canonical, fits⟩ := canonical_of_decode received
  exact ⟨decode_encodeOrdered true perm canonical integral fits,
    decode_encodeOrdered false perm canonical integral fits⟩

/-- An array with nulls that has a `corid`. -/
def listed : Json :=
  .arr [.str "s", .str "t", .obj [("null", .null)], .null, .null, .null, .null, .null, .str "u",
    .str "c"]

/-- Its message is sent on as an object. -/
theorem decode_relayed_listed :
    decode (Json.bytes listed) =
        .ok { service := "s", msgType := "t", uid := "u", corid := "c" } ∧
      Json.null.Integral ∧
      decode (encodeOrdered true [] { service := "s", msgType := "t", uid := "u", corid := "c" }) =
        .ok { service := "s", msgType := "t", uid := "u", corid := "c" } := by
  have received : decode (Json.bytes listed) =
      .ok { service := "s", msgType := "t", uid := "u", corid := "c" } :=
    Outcome.toOption_eq_some_iff.1 (by decide +kernel)
  have integral : Json.null.Integral := by simp [Json.Integral]
  exact ⟨received, integral, (decode_relayed received integral (.refl _)).1⟩

end HomeBus.Envelope
