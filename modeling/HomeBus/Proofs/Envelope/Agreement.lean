import HomeBus.Proofs.Envelope.Grammar
import HomeBus.Proofs.Json.Skipping

/-!
# Bytes and documents

An envelope is read off bytes part by part as they come, or out of a document whose members are in
order and of which those with one key are one. `taken` is what the first way makes of the document
as it is written; both ways find the same message as long as nothing gets lost in between.

Results:
* `decode_eq_ok_iff_taken`: what is read off bytes depends on the document in them alone.
* `taken_eq_decoder`: it is what is read out of the document when nothing gets lost.
* `overwritesTexts_of_taken`: nothing but strings gets lost of the properties of a message.
* `decode_agrees`: where the two ways agree.
-/

namespace HomeBus.Envelope

open Json (Reader Decoder maxDepth)
open Json.Reader (written ItemsAt MembersAt Follows)

/-! ## What gets lost -/

/-- No member of an envelope is given twice, and neither is a key in an object given as value
    type. -/
def Unrepeated (w : Json) : Prop :=
  (∀ field : Field, (Entries.keys (givenMembers w)).count field.name ≤ 1) ∧
    ∀ members, given w .valT = some (.obj members) → (Entries.keys members).Nodup

/-- In an object given as properties, a member with the key of a later one holds a string. -/
def OverwritesTexts (w : Json) : Prop :=
  ∀ members, given w .props = some (.obj members) →
    members.Pairwise fun a b => a.1 = b.1 → ∃ s, a.2 = .str s

/-- Nothing gets lost of what is given for a member. -/
def Field.Plain : Field → Json → Prop
  | .valT, w => ∀ members, w = .obj members → (Entries.keys members).Nodup
  | .props, w => ∀ members, w = .obj members →
      members.Pairwise fun a b => a.1 = b.1 → ∃ s, a.2 = .str s
  | _, _ => True

variable {room rounds : ℕ} {first : Bool} {bytes rest : Bytes} {w : Json} {field other : Field}
  {draft next : Draft} {m : Message}

theorem given_of_mem (once : ∀ field : Field, (Entries.keys (givenMembers w)).count field.name ≤ 1)
    {v : Json} (mem : (field.name, v) ∈ givenMembers w) : given w field = some v :=
  Entries.get?_of_mem (once field) mem

theorem plain_of_mem (once : Unrepeated w) (texts : OverwritesTexts w) {v : Json}
    (mem : (field.name, v) ∈ givenMembers w) : field.Plain v := by
  have said := given_of_mem once.1 mem
  cases field with
  | valT => exact fun members object => once.2 members (object ▸ said)
  | props => exact fun members object => texts members (object ▸ said)
  | _ => trivial

/-! ## Documents as they are written -/

/-- Takes what is written for a member. -/
def Field.take (draft : Draft) : Field → Json → Except Mismatch Draft
  | .val, w => .ok { draft with val := some w.collapse }
  | field, w => field.decode draft w

/-- Takes a member that was not there before. -/
def takeMember (draft : Draft) (member : String × Json) : Except Mismatch Draft :=
  match Field.ofName? member.1 with
  | some field =>
    if draft.has field then .error (.duplicateField member.1) else field.take draft member.2
  | none => .ok draft

/-- Takes the items of an array, one for each of the given members. -/
def takeItems (draft : Draft) : List Field → List Json → Option Draft
  | [], [] => some draft
  | field :: fields, item :: items =>
    (field.take draft item).toOption.bind fun draft => takeItems draft fields items
  | _, _ => none

/-- The message of a document as it is written. -/
def taken : Json → Option Message
  | .obj members => (members.foldlM takeMember {} >>= Draft.finish).toOption
  | .arr items => (takeItems {} Field.all items).bind fun draft => draft.finish.toOption
  | _ => none

/-! ## From bytes -/

theorem store_of_read {α : Type} {reader : Reader α} {a : α} (read : reader bytes = .ok (a, rest))
    (put : α → Draft) : store reader put bytes = .ok (put a, rest) := by
  rw [store, read]
  rfl

theorem store_eq_ok_iff {α : Type} {reader : Reader α} {put : α → Draft} :
    store reader put bytes = .ok (next, rest) ↔
      ∃ a, reader bytes = .ok (a, rest) ∧ put a = next := by
  constructor
  · intro h
    obtain ⟨⟨a, left⟩, read, ⟨⟩⟩ := Outcome.bind_eq_ok_iff.1 h
    exact ⟨a, read, rfl⟩
  · rintro ⟨a, read, rfl⟩
    exact store_of_read read put

theorem toOption_store {α : Type} {reader : Reader α} {decoder : Decoder α}
    (follows : Follows room reader decoder) (read : written room bytes = .ok (w, rest))
    (put : α → Draft) :
    (store reader put bytes).toOption = (keep decoder put w).toOption.map (·, rest) := by
  obtain ⟨e, e', refused, stopped⟩ | ⟨a, found, read⟩ := follows.cases read
  · rw [store, stopped, keep, refused]
    rfl
  · rw [store_of_read read, keep, found]
    rfl

/-- The value of a member is read as it is written. -/
theorem Field.toOption_read (read : written (maxDepth - 1) bytes = .ok (w, rest)) (draft : Draft) :
    (field.read draft bytes).toOption = (field.take draft w).toOption.map (·, rest) := by
  unfold Field.read Field.take Field.decode
  cases field with
  | serv | type => exact toOption_store (Reader.follows_text _) read _
  | valT => exact toOption_store (Reader.follows_valueType _) read _
  | val => exact toOption_store (Reader.follows_value _) read _
  | tags => exact toOption_store (Reader.follows_texts _).nullOr read _
  | props => exact toOption_store (Reader.follows_textDict _).nullOr read _
  | ctime | ver | uid | corid => exact toOption_store (Reader.follows_text _).nullOr read _

theorem toOption_readMember {key : String} {behind value : Bytes}
    (passed : Reader.colon behind = .ok value)
    (read : written (maxDepth - 1) value = .ok (w, rest)) (draft : Draft) :
    (readMember draft key behind).toOption =
      (takeMember draft (key, w)).toOption.map (·, rest) := by
  unfold readMember takeMember
  cases Field.ofName? key with
  | none =>
    simp only [passed, bind, Except.bind, Reader.skipValue_of_written read]
    rfl
  | some field =>
    simp only
    split_ifs
    · rfl
    · rw [passed]
      exact Field.toOption_read read draft

theorem toOption_membersOf {members : List (String × Json)}
    (object : MembersAt (maxDepth - 1) (bytes.length + 1) true bytes members rest) :
    (Reader.membersOf readMember {} bytes).toOption =
      (members.foldlM takeMember {}).toOption.map (·, rest) :=
  object.foldMembers
    (fun draft _ _ _ _ _ passed read => toOption_readMember passed read draft) {}

/-- An array must end behind the last value of an envelope. -/
theorem toOption_endArray {items : List Json}
    (list : ItemsAt (written room) rounds first bytes items rest) :
    (endArray bytes).toOption = if items = [] then some rest else none := by
  unfold endArray
  cases list with
  | close front =>
    rw [front]
    rfl
  | item front more =>
    rw [front]
    simp only
    rw [if_neg more, if_neg (List.cons_ne_nil _ _)]
    split_ifs
    · cases Json.skipBlank _ <;> rfl
    · rfl

theorem readItems_cons (taken : ℕ) (draft : Draft) (field : Field) (fields : List Field)
    (bytes : Bytes) :
    readItems taken draft (field :: fields) bytes =
      match Json.skipBlank bytes with
      | [] => Json.malformed .endInList
      | b :: rest =>
        if b = 0x5D then .error (.mismatch (.wrongLength taken arrayTitle))
        else Reader.itemStart (decide (taken = 0)) b rest >>= fun start =>
          field.read draft start >>= fun read => readItems (taken + 1) read.1 fields read.2 := by
  rw [readItems]
  cases Json.skipBlank bytes with
  | nil => rfl
  | cons b rest => cases taken <;> rfl

theorem toOption_readItems {fields : List Field} {items : List Json} {taken : ℕ}
    (list : ItemsAt (written (maxDepth - 1)) rounds (decide (taken = 0)) bytes items rest)
    (draft : Draft) :
    (readItems taken draft fields bytes).toOption =
      (takeItems draft fields items).map (·, rest) := by
  induction fields generalizing rounds bytes items taken draft with
  | nil =>
    rw [readItems, Outcome.toOption_bind, toOption_endArray list]
    cases items <;> rfl
  | cons field fields ih =>
    rw [readItems_cons]
    cases list with
    | close front =>
      rw [front]
      rfl
    | item front more begin head others =>
      rw [front, takeItems]
      simp only
      rw [if_neg more, begin, Outcome.ok_bind, Outcome.toOption_bind, Field.toOption_read head]
      cases field.take draft _ with
      | error e => rfl
      | ok draft => exact ih others draft

/-- A draft that was read is finished. -/
def conclude (read : Except Json.Error (Draft × Bytes)) : Except Json.Error (Message × Bytes) :=
  read >>= fun read =>
    match read.1.finish with
    | .ok m => .ok (m, read.2)
    | .error cause => .error (.mismatch cause)

theorem toOption_conclude {read : Except Json.Error (Draft × Bytes)} {found : Option Draft}
    (same : read.toOption = found.map (·, rest)) :
    (conclude read).toOption = (found.bind fun draft => draft.finish.toOption).map (·, rest) := by
  rw [conclude, Outcome.toOption_bind, same]
  cases found with
  | none => rfl
  | some draft =>
    simp only [Option.map_some, Option.bind_some]
    cases draft.finish <;> rfl

theorem reader_eq (bytes : Bytes) :
    reader bytes =
      match Json.skipBlank bytes with
      | [] => Json.malformed .endInValue
      | b :: rest =>
        if b = 0x7B then conclude (Reader.membersOf readMember {} rest)
        else if b = 0x5B then conclude (readItems 0 {} Field.all rest)
        else Reader.refuse title (b :: rest) := rfl

/-- An envelope is read as it is written. -/
theorem toOption_reader (read : written maxDepth bytes = .ok (w, rest)) :
    (reader bytes).toOption = (taken w).map (·, rest) := by
  obtain ⟨b, tail, front, starts⟩ := Reader.written_eq_ok_iff.1 read
  rw [reader_eq, front]
  simp only
  by_cases brace : b = 0x7B
  · obtain ⟨members, rfl⟩ := starts.brace_iff.1 brace
    obtain ⟨inner, room, object⟩ := starts.read_object
    obtain rfl : inner = maxDepth - 1 := by omega
    rw [if_pos brace, toOption_conclude (toOption_membersOf object), taken, Outcome.toOption_bind]
  rw [if_neg brace]
  by_cases bracket : b = 0x5B
  · obtain ⟨items, rfl⟩ := starts.bracket_iff.1 bracket
    obtain ⟨inner, room, list⟩ := starts.read_list
    obtain rfl : inner = maxDepth - 1 := by omega
    rw [if_pos bracket, toOption_conclude (toOption_readItems list {}), taken]
  rw [if_neg bracket, Reader.toOption_refuse]
  cases w with
  | obj members => exact absurd (starts.brace_iff.2 ⟨members, rfl⟩) brace
  | arr items => exact absurd (starts.bracket_iff.2 ⟨items, rfl⟩) bracket
  | _ => rfl

theorem decode_eq_ok_iff : decode bytes = .ok m ↔ Reader.document reader bytes = .ok m := by
  unfold decode
  cases Reader.document reader bytes <;> simp

/-- What is read off bytes depends on the document in them alone. -/
theorem decode_eq_ok_iff_taken (text : Reader.document (written maxDepth) bytes = .ok w) :
    decode bytes = .ok m ↔ taken w = some m := by
  obtain ⟨rest, read, front⟩ := Reader.document_eq_ok_iff.1 text
  have same := toOption_reader read
  rw [decode_eq_ok_iff, Reader.document_eq_ok_iff]
  constructor
  · rintro ⟨left, found, -⟩
    rw [found] at same
    obtain ⟨m', there, pair⟩ := Option.map_eq_some_iff.1 same.symm
    cases pair
    exact there
  · intro there
    rw [there] at same
    exact ⟨rest, Outcome.toOption_eq_some_iff.1 same, front⟩

/-! ## From documents -/

/-- Where nothing gets lost, a member is taken as it is read out of the document. -/
theorem Field.toOption_take (plain : field.Plain w) (draft : Draft) :
    (field.take draft w).toOption = (field.decode draft w.collapse).toOption := by
  have keep {α : Type} {decoder : Decoder α} (put : α → Draft)
      (same : (decoder w.collapse).toOption = (decoder w).toOption) :
      (keep decoder put w).toOption = (keep decoder put w.collapse).toOption := by
    rw [Envelope.keep, Envelope.keep, Outcome.toOption_map, Outcome.toOption_map, same]
  unfold Field.take Field.decode
  cases field with
  | serv | type => exact keep _ (congrArg Except.toOption (Decoder.text_collapse w))
  | valT => exact keep _ (Decoder.toOption_valueType_collapse plain)
  | val => rfl
  | tags =>
    exact keep _ (Decoder.nullOr_collapse (congrArg Except.toOption (Decoder.texts_collapse w)))
  | props => exact keep _ (Decoder.nullOr_collapse (Decoder.toOption_textDict_collapse plain))
  | ctime | ver | uid | corid =>
    exact keep _ (Decoder.nullOr_collapse (congrArg Except.toOption (Decoder.text_collapse w)))

/-- A member that was read is there, and all others are as before. -/
theorem Field.has_of_decode (read : field.decode draft w = .ok next) (ne : other ≠ field) :
    next.has other = draft.has other := by
  cases field <;>
  · obtain ⟨a, -, rfl⟩ := keep_eq_ok_iff.1 read
    cases other with
    | _ => first | exact absurd rfl ne | rfl

/-- Where no member is given twice, none is refused for having been there before. -/
theorem toOption_foldlM_takeMember {members : List (String × Json)}
    (plain : ∀ field : Field, ∀ v, (field.name, v) ∈ members → field.Plain v)
    (once : ∀ field : Field, (Entries.keys members).count field.name ≤ 1)
    (new : ∀ field : Field, field.name ∈ Entries.keys members → draft.has field = false) :
    (members.foldlM takeMember draft).toOption =
      ((Json.collapseMembers members).foldlM decodeMember draft).toOption := by
  induction members generalizing draft with
  | nil => rfl
  | cons member members ih =>
    obtain ⟨key, w⟩ := member
    have later (field : Field) := Entries.count_keys_of_cons (once field)
    have here : (takeMember draft (key, w)).toOption =
        (decodeMember draft (key, w.collapse)).toOption := by
      unfold takeMember decodeMember
      cases named : Field.ofName? key with
      | none => rfl
      | some field =>
        obtain rfl := Field.ofName?_eq_some_iff.1 named
        simp only
        rw [new field List.mem_cons_self, if_neg Bool.false_ne_true]
        exact Field.toOption_take (plain field w List.mem_cons_self) draft
    rw [Json.collapseMembers, List.foldlM_cons, List.foldlM_cons, Outcome.toOption_bind,
      Outcome.toOption_bind, here]
    cases read : decodeMember draft (key, w.collapse) with
    | error e => rfl
    | ok next =>
      refine ih (fun field v mem => plain field v (List.mem_cons_of_mem _ mem)) later
        fun other mem => ?_
      have before := new other (List.mem_cons_of_mem _ mem)
      cases named : Field.ofName? key with
      | none =>
        rw [decodeMember_of_none named] at read
        cases read
        exact before
      | some field =>
        obtain rfl := Field.ofName?_eq_some_iff.1 named
        rw [decodeMember_name] at read
        rw [Field.has_of_decode read, before]
        rintro rfl
        exact Entries.not_mem_of_count_cons (once other) mem

theorem takeItems_eq_decodeItems {fields : List Field} {items : List Json}
    (plain : ∀ pair ∈ fields.zip items, pair.1.Plain pair.2) (count : ℕ) (draft : Draft) :
    takeItems draft fields items =
      (decodeItems count draft fields (items.map Json.collapse)).toOption := by
  induction fields generalizing items count draft with
  | nil => cases items <;> rfl
  | cons field fields ih =>
    cases items with
    | nil => rfl
    | cons item items =>
      obtain ⟨here, later⟩ := List.forall_mem_cons.1 plain
      rw [takeItems, Field.toOption_take here, List.map_cons, decodeItems, Outcome.toOption_bind]
      exact congrArg _ (funext fun draft => ih later (count + 1) draft)

/-- Putting members in order keeps what is said about each of them. -/
theorem get?_givenMembers_collapse {members : List (String × Json)}
    (once : ∀ field : Field, (Entries.keys members).count field.name ≤ 1) (field : Field) :
    Entries.get? field.name (givenMembers (Json.obj members).collapse) =
      Entries.get? field.name (Json.collapseMembers members) := by
  refine Entries.get?_ofList ?_
  rw [Json.keys_collapseMembers]
  exact once field

/-- Members may be taken into account before or after they are put in order. -/
theorem toOption_decoder_collapse {members : List (String × Json)}
    (once : ∀ field : Field, (Entries.keys members).count field.name ≤ 1) :
    ((Json.collapseMembers members).foldlM decodeMember {} >>= Draft.finish).toOption =
      (decoder (Json.obj members).collapse).toOption := by
  have ordered := Json.canonical_collapse (.obj members)
  have written : ∀ member ∈ Json.collapseMembers members, member.2.Canonical := by
    rw [Json.collapseMembers_eq_map]
    exact List.forall_mem_map.2 fun member _ => Json.canonical_collapse member.2
  have once' (field : Field) :
      (Entries.keys (Json.collapseMembers members)).count field.name ≤ 1 := by
    rw [Json.keys_collapseMembers]
    exact once field
  refine Outcome.toOption_congr fun m => ?_
  refine (foldlM_decodeMember_eq_ok_iff written once' {}).trans (Iff.trans ?_
    (foldlM_decodeMember_eq_ok_iff (canonical_givenMembers ordered)
      (count_givenMembers ordered) {}).symm)
  refine forall_congr' fun field => ?_
  rw [get?_givenMembers_collapse once field]

/-- Where nothing gets lost, the document has the message that is written. -/
theorem taken_eq_decoder (once : Unrepeated w) (texts : OverwritesTexts w) :
    taken w = (decoder w.collapse).toOption := by
  cases w with
  | obj members =>
    have new (field : Field) : ({} : Draft).has field = false := by cases field <;> rfl
    have same : (members.foldlM takeMember {}).toOption =
        ((Json.collapseMembers members).foldlM decodeMember {}).toOption :=
      toOption_foldlM_takeMember (fun field v mem => plain_of_mem once texts mem) once.1
        fun field _ => new field
    rw [taken, Outcome.toOption_bind, same, ← Outcome.toOption_bind]
    exact toOption_decoder_collapse once.1
  | arr items =>
    have plain (pair) (mem : pair ∈ Field.all.zip items) : pair.1.Plain pair.2 :=
      plain_of_mem once texts (List.mem_map.2 ⟨pair, mem, rfl⟩)
    rw [taken, takeItems_eq_decodeItems plain 0, ← Json.collapseItems_eq_map]
    exact (Outcome.toOption_bind ..).symm
  | _ => rfl

/-! ## What only the bytes have -/

/-- All properties that were taken are strings. -/
theorem plain_of_take (read : Field.props.take draft w = .ok next) : Field.props.Plain w := by
  obtain ⟨found, read, -⟩ := keep_eq_ok_iff.1 read
  rintro members rfl
  obtain ⟨null, -⟩ | ⟨-, dict, here, -⟩ := Decoder.nullOr_eq_ok_iff.1 read
  · cases null
  · change ((members.mapM Decoder.textEntry).map Dict.ofList = .ok dict) at here
    cases all : members.mapM Decoder.textEntry with
    | error e =>
      rw [all] at here
      cases here
    | ok entries =>
      obtain rfl := Decoder.mapM_textEntry_eq_ok_iff.1 all
      exact List.pairwise_map.2 (List.pairwise_of_forall fun a b _ => ⟨a.2, rfl⟩)

theorem exists_of_takeItems {fields : List Field} {items : List Json}
    (done : takeItems draft fields items = some next) (mem : (field, w) ∈ fields.zip items) :
    ∃ draft next, field.take draft w = .ok next := by
  induction fields generalizing items draft with
  | nil => cases mem
  | cons head fields ih =>
    cases items with
    | nil => cases mem
    | cons item items =>
      obtain ⟨between, here, done⟩ := Option.bind_eq_some_iff.1 done
      rcases List.mem_cons.1 mem with same | mem
      · cases same
        exact ⟨draft, between, Outcome.toOption_eq_some_iff.1 here⟩
      · exact ih done mem

/-- Every member of a message was taken. -/
theorem exists_of_taken (done : taken w = some m) {v : Json}
    (mem : (field.name, v) ∈ givenMembers w) : ∃ draft next, field.take draft v = .ok next := by
  cases w with
  | obj members =>
    obtain ⟨final, folded, -⟩ := Outcome.bind_eq_ok_iff.1 (Outcome.toOption_eq_some_iff.1 done)
    obtain ⟨draft, next, read⟩ := Outcome.exists_of_foldlM folded mem
    rw [takeMember, field.ofName?_name] at read
    simp only at read
    split_ifs at read
    exact ⟨draft, next, read⟩
  | arr items =>
    obtain ⟨final, folded, -⟩ := Option.bind_eq_some_iff.1 done
    obtain ⟨⟨field', item⟩, pair, same⟩ := List.mem_map.1 mem
    obtain ⟨name, rfl⟩ := Prod.ext_iff.1 same
    obtain rfl := Field.name_injective name
    exact exists_of_takeItems folded pair
  | _ => cases done

/-- Nothing but strings gets lost of the properties of a message. -/
theorem overwritesTexts_of_taken (done : taken w = some m) : OverwritesTexts w := by
  intro members said
  obtain ⟨draft, next, read⟩ := exists_of_taken done (Entries.mem_of_get? said)
  exact plain_of_take read members rfl

/-- A text holds the message of its document unless a property got lost that is no string. -/
theorem decode_eq_ok_iff_ofJson (once : Unrepeated w)
    (text : Reader.document (written maxDepth) bytes = .ok w) :
    decode bytes = .ok m ↔ ofJson w.collapse = .ok m ∧ OverwritesTexts w := by
  rw [decode_eq_ok_iff_taken text, ofJson_eq_ok_iff]
  constructor
  · intro done
    have texts := overwritesTexts_of_taken done
    rw [taken_eq_decoder once texts] at done
    exact ⟨Outcome.toOption_eq_some_iff.1 done, texts⟩
  · rintro ⟨found, texts⟩
    rw [taken_eq_decoder once texts, found]
    rfl

/-- The two ways to read an envelope agree on every text that holds a document in which nothing is
    repeated, except for properties that only the first one sees. -/
theorem decode_agrees {v : Json} (parsed : Json.parse bytes = .ok v) :
    ∃ w, Reader.document (written maxDepth) bytes = .ok w ∧ w.collapse = v ∧
      (Unrepeated w → ∀ m, decode bytes = .ok m ↔ ofJson v = .ok m ∧ OverwritesTexts w) := by
  obtain ⟨w, text, rfl⟩ := Reader.parse_eq_ok_iff.1 parsed
  exact ⟨w, text, rfl, fun once m => decode_eq_ok_iff_ofJson once text⟩

/-- An array with a property that is given twice. -/
def repeated : Json :=
  .arr [.str "s", .str "t", .obj [("null", .null)], .null, .null,
    .obj [("a", .str "x"), ("a", .str "y")], .null, .null, .null, .null]

/-- Both ways find the later property. -/
theorem decode_agrees_repeated :
    Json.parse (Json.bytes repeated) = .ok repeated.collapse ∧
      ∀ m, decode (Json.bytes repeated) = .ok m ↔ ofJson repeated.collapse = .ok m := by
  have texts : OverwritesTexts repeated := by
    rintro _ ⟨⟩
    simp
  have parsed : Json.parse (Json.bytes repeated) = .ok repeated.collapse :=
    Outcome.toOption_eq_some_iff.1 (by decide +kernel)
  have read : Reader.document (written maxDepth) (Json.bytes repeated) = .ok repeated :=
    Outcome.toOption_eq_some_iff.1 (by decide +kernel)
  obtain ⟨w, text, -, agrees⟩ := decode_agrees parsed
  obtain rfl : repeated = w := Except.ok.inj (read.symm.trans text)
  have once : Unrepeated repeated := by
    refine ⟨count_givenMembers_arr _, ?_⟩
    rintro _ ⟨⟩
    decide
  exact ⟨parsed, fun m => (agrees once m).trans (and_iff_left texts)⟩

/-- A property that is a number first and a text later. -/
def overwritten : Json :=
  .obj [("serv", .str "s"), ("type", .str "t"), ("val_t", .str "null"), ("val", .null),
    ("tags", .null), ("props", .obj [("a", .num (.int 1 (by decide))), ("a", .str "x")])]

/-- The number is refused in the text, but is not there any more in its document. -/
theorem decode_disagrees :
    ¬∀ (b : Bytes) (v w : Json), Json.parse b = .ok v →
      Reader.document (written maxDepth) b = .ok w → Unrepeated w →
      ∀ m, decode b = .ok m ↔ ofJson v = .ok m := by
  intro agrees
  have parsed : Json.parse (Json.bytes overwritten) = .ok overwritten.collapse :=
    Outcome.toOption_eq_some_iff.1 (by decide +kernel)
  have read : Reader.document (written maxDepth) (Json.bytes overwritten) = .ok overwritten :=
    Outcome.toOption_eq_some_iff.1 (by decide +kernel)
  have once : Unrepeated overwritten := ⟨fun field => by cases field <;> decide, nofun⟩
  have found : ofJson overwritten.collapse =
      .ok { service := "s", msgType := "t", props := Dict.empty.insert "a" "x" } :=
    Outcome.toOption_eq_some_iff.1 (by decide +kernel)
  have refused : (decode (Json.bytes overwritten)).toOption = none := by decide +kernel
  rw [(agrees _ _ _ parsed read once _).2 found] at refused
  cases refused

end HomeBus.Envelope
