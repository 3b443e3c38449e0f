import HomeBus.Envelope
import HomeBus.Proofs.Json.Decoders

/-!
# Which documents are envelopes

An envelope is an object with the members of `Field`, or an array with their values in the order of
`Field.all`. `given` is what a document says about a member, `Field.Admits` what it may say, and
`Field.Carries` what a message has from it.

Results:
* `foldlM_decodeMember_eq_ok_iff`: a list of members is a message when each member is carried.
* `ofJson_eq_ok_iff`: the message of a document.
* `ofJson_grammar`: which documents are accepted, and that other members do not matter.
-/

namespace HomeBus.Envelope

open Json (Decoder)

/-! ## What a document says -/

/-- The members of a document: an array holds those of `Field.all`, in this order. -/
def givenMembers : Json → List (String × Json)
  | .obj members => members
  | .arr items => (Field.all.zip items).map fun pair => (pair.1.name, pair.2)
  | _ => []

/-- What a document says about a member. -/
def given (v : Json) (field : Field) : Option Json := Entries.get? field.name (givenMembers v)

/-- An object, or an array with as many items as there are members. -/
def Framed : Json → Prop
  | .obj _ => True
  | .arr items => items.length = 10
  | _ => False

/-- A document without the members that an envelope does not have. -/
def known : Json → Json
  | .obj members => .obj (members.filter fun member => (Field.ofName? member.1).isSome)
  | other => other

/-- What may be said about a member. -/
def Field.Admits : Field → Option Json → Prop
  | .serv, said | .type, said => ∃ s, said = some (.str s)
  | .valT, said => ∃ t : ValueType, said = some (.str t.tag) ∨ said = some (.obj [(t.tag, .null)])
  | .val, said => ∃ v, said = some v
  | .tags, said =>
    said = some .null ∨ ∃ items, said = some (.arr items) ∧ ∀ item ∈ items, ∃ s, item = .str s
  | .props, said =>
    said = some .null ∨
      ∃ members, said = some (.obj members) ∧ ∀ member ∈ members, ∃ s, member.2 = .str s
  | .ctime, said | .ver, said | .uid, said | .corid, said =>
    said = none ∨ said = some .null ∨ ∃ s, said = some (.str s)

/-- What is said is a text, or nothing or null, which stands for another text. -/
def SaysText (default : String) (said : Option Json) (s : String) : Prop :=
  (said = none ∨ said = some .null) ∧ s = default ∨ said = some (.str s)

/-- A message has what is said about a member. -/
def Field.Carries (m : Message) : Field → Option Json → Prop
  | .serv, said => said = some (.str m.service)
  | .type, said => said = some (.str m.msgType)
  | .valT, said =>
    said = some (.str m.valueType.tag) ∨ said = some (.obj [(m.valueType.tag, .null)])
  | .val, said => said = some m.value
  | .tags, said => said = some .null ∧ m.tags = [] ∨ said = some (.arr (m.tags.map .str))
  | .props, said =>
    said = some .null ∧ m.props = .empty ∨
      said = some (.obj (m.props.entries.map fun entry => (entry.1, .str entry.2)))
  | .ctime, said => SaysText "" said m.ctime
  | .ver, said => SaysText "1.0" said m.ver
  | .uid, said => SaysText "" said m.uid
  | .corid, said => SaysText "" said m.corid

/-! ## Names -/

theorem Field.ofName?_name (field : Field) : Field.ofName? field.name = some field := by
  cases field <;> decide

theorem Field.ofName?_eq_some_iff {key : String} {field : Field} :
    Field.ofName? key = some field ↔ key = field.name := by
  constructor
  · intro h
    exact (eq_of_beq (List.find?_some h :)).symm
  · rintro rfl
    exact field.ofName?_name

theorem Field.name_injective {a b : Field} (h : a.name = b.name) : a = b :=
  Option.some.inj (a.ofName?_name ▸ b.ofName?_name ▸ congrArg Field.ofName? h)

/-! ## Drafts -/

/-- A draft has what a message has in a member. -/
def Field.Filled (draft : Draft) (m : Message) : Field → Prop
  | .serv => draft.serv = some m.service
  | .type => draft.type = some m.msgType
  | .valT => draft.valT = some m.valueType
  | .val => draft.val = some m.value
  | .tags => draft.tags = some m.tags
  | .props => draft.props = some m.props
  | .ctime => draft.ctime.join.getD "" = m.ctime
  | .ver => draft.ver.join.getD protocolVersion = m.ver
  | .uid => draft.uid.join.getD "" = m.uid
  | .corid => draft.corid.join.getD "" = m.corid

theorem Draft.need_eq_ok_iff {α : Type} {field : Field} {found : Option α} {a : α} :
    Draft.need field found = .ok a ↔ found = some a := by
  cases found <;> simp [Draft.need]

variable {draft next : Draft} {m : Message} {field other : Field} {w : Json}

/-- A complete draft is a message, member by member. -/
theorem Draft.finish_eq_ok_iff : draft.finish = .ok m ↔ ∀ field : Field, field.Filled draft m := by
  constructor
  · intro h
    obtain ⟨service, serv, h⟩ := Outcome.bind_eq_ok_iff.1 h
    obtain ⟨msgType, type, h⟩ := Outcome.bind_eq_ok_iff.1 h
    obtain ⟨valueType, valT, h⟩ := Outcome.bind_eq_ok_iff.1 h
    obtain ⟨value, val, h⟩ := Outcome.bind_eq_ok_iff.1 h
    obtain ⟨tags', tags, h⟩ := Outcome.bind_eq_ok_iff.1 h
    obtain ⟨props', props, ⟨⟩⟩ := Outcome.bind_eq_ok_iff.1 h
    intro field
    cases field with
    | serv => exact Draft.need_eq_ok_iff.1 serv
    | type => exact Draft.need_eq_ok_iff.1 type
    | valT => exact Draft.need_eq_ok_iff.1 valT
    | val => exact Draft.need_eq_ok_iff.1 val
    | tags => exact Draft.need_eq_ok_iff.1 tags
    | props => exact Draft.need_eq_ok_iff.1 props
    | _ => rfl
  · intro h
    have serv := h .serv
    have type := h .type
    have valT := h .valT
    have val := h .val
    have tags := h .tags
    have props := h .props
    have ctime := h .ctime
    have ver := h .ver
    have uid := h .uid
    have corid := h .corid
    simp only [Field.Filled] at serv type valT val tags props ctime ver uid corid
    rw [Draft.finish, serv, type, valT, val, tags, props, ctime, ver, uid, corid]
    rfl

theorem keep_eq_ok_iff {α : Type} {decoder : Decoder α} {put : α → Draft} :
    keep decoder put w = .ok next ↔ ∃ a, decoder w = .ok a ∧ put a = next := by
  unfold keep
  cases decoder w <;> simp [Except.map]

/-- Reading a member leaves the others as they are. -/
theorem Field.filled_of_decode_ne (read : field.decode draft w = .ok next) (ne : other ≠ field) :
    other.Filled next m ↔ other.Filled draft m := by
  cases field <;>
  · obtain ⟨a, -, rfl⟩ := keep_eq_ok_iff.1 read
    cases other with
    | _ => first | exact absurd rfl ne | rfl

theorem exists_keep_iff {α : Type} {decoder : Decoder α} {put : α → Draft} :
    (∃ next, keep decoder put w = .ok next ∧ field.Filled next m) ↔
      ∃ a, decoder w = .ok a ∧ field.Filled (put a) m := by
  constructor
  · rintro ⟨_, read, filled⟩
    obtain ⟨a, found, rfl⟩ := keep_eq_ok_iff.1 read
    exact ⟨a, found, filled⟩
  · rintro ⟨a, found, filled⟩
    exact ⟨_, keep_eq_ok_iff.2 ⟨a, found, rfl⟩, filled⟩

theorem exists_text_iff {s : String} :
    (∃ a, Decoder.text w = .ok a ∧ some a = some s) ↔ some w = some (.str s) := by
  constructor
  · rintro ⟨a, read, ⟨⟩⟩
    exact congrArg some (Decoder.text_eq_ok_iff.1 read)
  · intro same
    exact ⟨s, Decoder.text_eq_ok_iff.2 (Option.some.inj same), rfl⟩

/-- Something that may be null. -/
theorem exists_nullOr_iff {α : Type} {decoder : Decoder α} {P : Option α → Prop} {v : Json}
    (read : (∃ a, decoder w = .ok a ∧ P (some a)) ↔ w = v) (ne : v ≠ .null) :
    (∃ found, Decoder.nullOr decoder w = .ok found ∧ P found) ↔
      some w = some .null ∧ P none ∨ some w = some v := by
  rw [Option.some.injEq, Option.some.injEq, ← read]
  constructor
  · rintro ⟨found, read, holds⟩
    obtain ⟨null, rfl⟩ | ⟨-, a, here, rfl⟩ := Decoder.nullOr_eq_ok_iff.1 read
    · exact .inl ⟨null, holds⟩
    · exact .inr ⟨a, here, holds⟩
  · rintro (⟨null, holds⟩ | ⟨a, here, holds⟩)
    · exact ⟨none, Decoder.nullOr_eq_ok_iff.2 (.inl ⟨null, rfl⟩), holds⟩
    · have text := read.1 ⟨a, here, holds⟩
      exact ⟨some a, Decoder.nullOr_eq_ok_iff.2 (.inr ⟨text ▸ ne, a, here, rfl⟩), holds⟩

theorem saysText_some_iff {default s : String} :
    (∃ found, Decoder.nullOr Decoder.text w = .ok found ∧ (some found).join.getD default = s) ↔
      SaysText default (some w) s := by
  have text : (∃ a, Decoder.text w = .ok a ∧ (some (some a)).join.getD default = s) ↔
      w = .str s := by
    constructor
    · rintro ⟨a, read, rfl⟩
      exact Decoder.text_eq_ok_iff.1 read
    · rintro rfl
      exact ⟨s, rfl, rfl⟩
  have both := exists_nullOr_iff (P := fun found => (some found).join.getD default = s) text nofun
  rw [both, SaysText]
  simp only [reduceCtorEq, false_or]
  exact or_congr_left (and_congr_right fun _ => eq_comm)

/-- A message has what is said about a member when that can be read and is what it has. -/
theorem Field.carries_some_iff (canonical : w.Canonical) (draft : Draft) :
    field.Carries m (some w) ↔ ∃ next, field.decode draft w = .ok next ∧ field.Filled next m := by
  cases field <;> refine Iff.trans ?_ exists_keep_iff.symm
  case serv | type => exact exists_text_iff.symm
  case valT =>
    constructor
    · intro said
      simp only [Field.Carries, Option.some.injEq] at said
      exact ⟨_, Decoder.valueType_eq_ok_iff.2 said, rfl⟩
    · rintro ⟨t, read, ⟨⟩⟩
      simp only [Field.Carries, Option.some.injEq]
      exact Decoder.valueType_eq_ok_iff.1 read
  case val =>
    constructor
    · rintro ⟨⟩
      exact ⟨_, rfl, rfl⟩
    · rintro ⟨_, ⟨⟩, ⟨⟩⟩
      rfl
  case tags =>
    have list : (∃ l, Decoder.listOf Decoder.text w = .ok l ∧ some l = some m.tags) ↔
        w = .arr (m.tags.map .str) := by
      constructor
      · rintro ⟨l, read, ⟨⟩⟩
        exact Decoder.texts_eq_ok_iff.1 read
      · intro said
        exact ⟨_, Decoder.texts_eq_ok_iff.2 said, rfl⟩
    have both := exists_nullOr_iff (P := fun l => some (l.getD []) = some m.tags) list nofun
    refine Iff.trans (or_congr_left (and_congr_right fun _ => ?_)) both.symm
    rw [Option.some.injEq, eq_comm]
    rfl
  case props =>
    have dict : (∃ d, Decoder.dictOf Decoder.text w = .ok d ∧ some d = some m.props) ↔
        w = .obj (m.props.entries.map Decoder.textMember) := by
      constructor
      · rintro ⟨l, read, ⟨⟩⟩
        exact (Decoder.textDict_eq_ok_iff canonical).1 read
      · intro said
        exact ⟨_, (Decoder.textDict_eq_ok_iff canonical).2 said, rfl⟩
    have both := exists_nullOr_iff (P := fun d => some (d.getD .empty) = some m.props) dict nofun
    refine Iff.trans (or_congr_left (and_congr_right fun _ => ?_)) both.symm
    rw [Option.some.injEq, eq_comm]
    rfl
  case ctime | ver | uid | corid => exact saysText_some_iff.symm

/-- What a message has of a member that is not there. -/
theorem Field.carries_none_iff : field.Carries m none ↔ field.Filled {} m := by
  have text (default s : String) :
      SaysText default none s ↔ (none : Option String).getD default = s := by
    simp [SaysText, eq_comm]
  cases field
  case ctime | ver | uid | corid => exact text _ _
  all_goals exact iff_of_false (by simp [Field.Carries]) nofun

/-! ## Lists of members -/

section

variable {members : List (String × Json)} {key : String}

theorem decodeMember_name (draft : Draft) (field : Field) (w : Json) :
    decodeMember draft (field.name, w) = field.decode draft w := by
  rw [decodeMember, field.ofName?_name]

theorem decodeMember_of_none (unknown : Field.ofName? key = none) (draft : Draft) (w : Json) :
    decodeMember draft (key, w) = .ok draft := by
  rw [decodeMember, unknown]

/-- Members are a message when each member that is there is carried and the draft has the others. -/
theorem foldlM_decodeMember_eq_ok_iff (canonical : ∀ member ∈ members, member.2.Canonical)
    (once : ∀ field : Field, (Entries.keys members).count field.name ≤ 1) (draft : Draft) :
    (members.foldlM decodeMember draft >>= Draft.finish) = .ok m ↔
      ∀ field : Field, match Entries.get? field.name members with
        | some w => field.Carries m (some w)
        | none => field.Filled draft m := by
  induction members generalizing draft with
  | nil => exact Draft.finish_eq_ok_iff
  | cons member members ih =>
    obtain ⟨key, w⟩ := member
    obtain ⟨here, others⟩ := List.forall_mem_cons.1 canonical
    have later (field : Field) := Entries.count_keys_of_cons (once field)
    rw [List.foldlM_cons]
    cases known : Field.ofName? key with
    | none =>
      rw [decodeMember_of_none known]
      refine (ih others later draft).trans (forall_congr' fun field => ?_)
      have ne : key ≠ field.name := fun same => by
        rw [Field.ofName?_eq_some_iff.2 same] at known
        cases known
      rw [Entries.get?, if_neg ne]
    | some field =>
      obtain rfl := Field.ofName?_eq_some_iff.1 known
      have gone : Entries.get? field.name members = none :=
        Entries.get?_of_not_mem (Entries.not_mem_of_count_cons (once field))
      rw [decodeMember_name]
      cases read : field.decode draft w with
      | error e =>
        refine iff_of_false (fun done => by cases done) fun all => ?_
        have said := all field
        rw [Entries.get?, if_pos rfl] at said
        obtain ⟨next, found, -⟩ := (Field.carries_some_iff here draft).1 said
        rw [read] at found
        cases found
      | ok next =>
        refine (ih others later next).trans (forall_congr' fun other => ?_)
        rw [Entries.get?]
        by_cases same : other = field
        · subst same
          rw [gone, if_pos rfl]
          simp only
          rw [Field.carries_some_iff here draft, read]
          simp
        · rw [if_neg fun name => same (Field.name_injective name).symm]
          cases Entries.get? other.name members with
          | some w => exact Iff.rfl
          | none => exact Field.filled_of_decode_ne read same

end

/-! ## Documents -/

/-- The items of an array are the members of the fields that they stand for. -/
theorem decodeItems_eq_ok_iff {fields : List Field} {items : List Json} {taken : ℕ} :
    decodeItems taken draft fields items = .ok next ↔
      items.length = fields.length ∧
        ((fields.zip items).map fun pair => (pair.1.name, pair.2)).foldlM decodeMember draft =
          .ok next := by
  induction fields generalizing items taken draft with
  | nil =>
    cases items with
    | nil => exact (and_iff_right rfl).symm
    | cons item items => exact iff_of_false nofun fun h => nomatch h.1
  | cons field fields ih =>
    cases items with
    | nil => exact iff_of_false nofun fun h => nomatch h.1
    | cons item items =>
      rw [decodeItems, List.zip_cons_cons, List.map_cons, List.foldlM_cons, decodeMember_name,
        List.length_cons, List.length_cons, Nat.add_right_cancel_iff]
      cases field.decode draft item with
      | error e => exact iff_of_false nofun fun h => nomatch h.2
      | ok draft => exact ih

theorem keys_zip_sublist (fields : List Field) (items : List Json) :
    (Entries.keys ((fields.zip items).map fun pair => (pair.1.name, pair.2))).Sublist
      (fields.map Field.name) := by
  induction fields generalizing items with
  | nil => exact .slnil
  | cons field fields ih =>
    cases items with
    | nil => exact List.nil_sublist _
    | cons item items => exact (ih items).cons_cons field.name

theorem count_givenMembers_arr (items : List Json) (field : Field) :
    (Entries.keys (givenMembers (.arr items))).count field.name ≤ 1 := by
  refine Nat.le_trans ((keys_zip_sublist Field.all items).count_le _) ?_
  cases field <;> decide

theorem canonical_givenMembers {v : Json} (canonical : v.Canonical) :
    ∀ member ∈ givenMembers v, member.2.Canonical := by
  cases v with
  | obj members => exact (Json.canonicalMembers_iff members).1 canonical.2
  | arr items =>
    refine List.forall_mem_map.2 fun pair mem => ?_
    exact (Json.canonicalItems_iff items).1 canonical pair.2 (List.of_mem_zip mem).2
  | _ => exact nofun

/-- The message of a document, wherever its members come once. -/
theorem decoder_eq_ok_iff {v : Json} (canonical : ∀ member ∈ givenMembers v, member.2.Canonical)
    (once : ∀ field : Field, (Entries.keys (givenMembers v)).count field.name ≤ 1) :
    decoder v = .ok m ↔ Framed v ∧ ∀ field : Field, field.Carries m (given v field) := by
  have members : ((givenMembers v).foldlM decodeMember {} >>= Draft.finish) = .ok m ↔
      ∀ field : Field, field.Carries m (given v field) := by
    refine (foldlM_decodeMember_eq_ok_iff canonical once {}).trans (forall_congr' fun field => ?_)
    rw [given]
    cases Entries.get? field.name (givenMembers v) with
    | some w => exact Iff.rfl
    | none => exact Field.carries_none_iff.symm
  cases v with
  | obj all => exact members.trans (and_iff_right trivial).symm
  | arr items =>
    rw [← members]
    change (decodeItems 0 {} Field.all items >>= Draft.finish) = .ok m ↔ _
    simp only [Outcome.bind_eq_ok_iff, decodeItems_eq_ok_iff, exists_and_left, and_assoc]
    exact Iff.rfl
  | _ => exact iff_of_false nofun And.left

theorem ofJson_eq_ok_iff {v : Json} : ofJson v = .ok m ↔ decoder v = .ok m := by
  unfold ofJson
  cases decoder v <;> simp

theorem count_givenMembers {v : Json} (canonical : v.Canonical) (field : Field) :
    (Entries.keys (givenMembers v)).count field.name ≤ 1 := by
  cases v with
  | obj members => exact List.nodup_iff_count_le_one.1 canonical.1.keys_nodup _
  | arr items => exact count_givenMembers_arr items field
  | _ => exact Nat.zero_le _

/-! ## Accepted documents -/

theorem Field.admits_of_carries {said : Option Json} (h : field.Carries m said) :
    field.Admits said := by
  cases field with
  | serv | type | valT | val => exact ⟨_, h⟩
  | tags =>
    refine Or.imp And.left (fun h => ⟨_, h, ?_⟩) h
    exact List.forall_mem_map.2 fun s _ => ⟨s, rfl⟩
  | props =>
    refine Or.imp And.left (fun h => ⟨_, h, ?_⟩) h
    exact List.forall_mem_map.2 fun entry _ => ⟨entry.2, rfl⟩
  | ctime | ver | uid | corid =>
    obtain ⟨h | h, -⟩ | h := h
    · exact .inl h
    · exact .inr (.inl h)
    · exact .inr (.inr ⟨_, h⟩)

theorem exists_saysText {said : Option Json} (default : String)
    (h : said = none ∨ said = some .null ∨ ∃ s, said = some (.str s)) :
    ∃ s, SaysText default said s := by
  obtain h | h | ⟨s, h⟩ := h
  · exact ⟨default, .inl ⟨.inl h, rfl⟩⟩
  · exact ⟨default, .inl ⟨.inr h, rfl⟩⟩
  · exact ⟨s, .inr h⟩

/-- What is said about the members can be said of one message. -/
theorem exists_carries {said : Field → Option Json}
    (canonical : ∀ field w, said field = some w → w.Canonical)
    (h : ∀ field : Field, field.Admits (said field)) :
    ∃ m, ∀ field : Field, field.Carries m (said field) := by
  obtain ⟨service, serv⟩ := h .serv
  obtain ⟨msgType, type⟩ := h .type
  obtain ⟨valueType, valT⟩ := h .valT
  obtain ⟨value, val⟩ := h .val
  obtain ⟨tags, listed⟩ : ∃ l : List String, said .tags = some .null ∧ l = [] ∨
      said .tags = some (.arr (l.map .str)) := by
    obtain null | ⟨items, list, texts⟩ := h .tags
    · exact ⟨[], .inl ⟨null, rfl⟩⟩
    · obtain ⟨l, rfl⟩ := Decoder.exists_eq_map_iff.2 texts
      exact ⟨l, .inr list⟩
  obtain ⟨props, kept⟩ : ∃ d : Dict String, said .props = some .null ∧ d = .empty ∨
      said .props = some (.obj (d.entries.map Decoder.textMember)) := by
    obtain null | ⟨members, object, texts⟩ := h .props
    · exact ⟨.empty, .inl ⟨null, rfl⟩⟩
    · obtain ⟨entries, rfl⟩ := Decoder.exists_eq_map_iff.2 fun member mem =>
        Decoder.exists_eq_textMember_iff.2 (texts member mem)
      exact ⟨⟨entries, Decoder.sorted_textMember.1 (canonical _ _ object).1⟩, .inr object⟩
  obtain ⟨ctime, made⟩ := exists_saysText "" (h .ctime)
  obtain ⟨ver, version⟩ := exists_saysText "1.0" (h .ver)
  obtain ⟨uid, identifier⟩ := exists_saysText "" (h .uid)
  obtain ⟨corid, answered⟩ := exists_saysText "" (h .corid)
  refine ⟨⟨service, msgType, valueType, value, tags, props, ctime, uid, ver, corid⟩, ?_⟩
  rintro (_ | _ | _ | _ | _ | _ | _ | _ | _ | _)
  exacts [serv, type, valT, val, listed, kept, made, version, identifier, answered]

theorem decoder_known (v : Json) : decoder (known v) = decoder v := by
  cases v with
  | obj members =>
    rw [known, decoder, decoder, List.foldlM_filter]
    have step : (fun draft (member : String × Json) => if (Field.ofName? member.1).isSome then
        decodeMember draft member else pure draft) = decodeMember := by
      funext draft member
      split_ifs with name
      · rfl
      · rw [Bool.not_eq_true, Option.isSome_eq_false_iff, Option.isNone_iff_eq_none] at name
        exact (decodeMember_of_none name draft member.2).symm
    rw [step]
  | _ => rfl

theorem canonical_given {v : Json} (canonical : v.Canonical) {field : Field}
    (said : given v field = some w) : w.Canonical :=
  canonical_givenMembers canonical _ (Entries.mem_of_get? said)

/-- A document is accepted exactly when it is an object or an array of all values in which every
    member is what it may be; the message has exactly what is said, and other members have no
    effect. -/
theorem ofJson_grammar {v : Json} (canonical : v.Canonical) :
    ((∃ m, ofJson v = .ok m) ↔ Framed v ∧ ∀ field : Field, field.Admits (given v field)) ∧
      (∀ m, ofJson v = .ok m ↔ Framed v ∧ ∀ field : Field, field.Carries m (given v field)) ∧
      ofJson (known v) = ofJson v := by
  have message (m : Message) : ofJson v = .ok m ↔
      Framed v ∧ ∀ field : Field, field.Carries m (given v field) :=
    ofJson_eq_ok_iff.trans
      (decoder_eq_ok_iff (canonical_givenMembers canonical) (count_givenMembers canonical))
  refine ⟨⟨?_, ?_⟩, message, ?_⟩
  · rintro ⟨m, read⟩
    have ⟨framed, carried⟩ := (message m).1 read
    exact ⟨framed, fun field => Field.admits_of_carries (carried field)⟩
  · rintro ⟨framed, admitted⟩
    obtain ⟨m, carried⟩ := exists_carries (fun _ _ => canonical_given canonical) admitted
    exact ⟨m, (message m).2 ⟨framed, carried⟩⟩
  · rw [ofJson, decoder_known, ofJson]

/-- An array with nulls wherever they are allowed. -/
def nulls : Json :=
  .arr [.str "s", .str "t", .obj [("null", .null)], .null, .null, .null, .null, .null, .null, .null]

/-- It is an envelope. -/
theorem ofJson_grammar_nulls : nulls.Canonical ∧ ∃ m, ofJson nulls = .ok m := by
  have canonical : nulls.Canonical := by
    simp [nulls, Json.Canonical, Json.CanonicalItems, Json.CanonicalMembers, Entries.Sorted]
  refine ⟨canonical, (ofJson_grammar canonical).1.2 ⟨rfl, fun field => ?_⟩⟩
  cases field with
  | serv | type => exact ⟨_, rfl⟩
  | valT => exact ⟨.null, .inr rfl⟩
  | val => exact ⟨.null, rfl⟩
  | tags | props => exact .inl rfl
  | ctime | ver | uid | corid => exact .inr (.inl rfl)

end HomeBus.Envelope
