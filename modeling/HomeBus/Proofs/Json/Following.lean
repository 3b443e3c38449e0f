import HomeBus.Proofs.Json.Decoders
import HomeBus.Proofs.Json.Written

/-!
# Readers of a known shape and decoders

A reader takes bytes apart as they come, a decoder takes a document apart. A reader `Follows` a
decoder when, at the front of every text that holds a document, it finds what the decoder finds in
the document as it is written.

Results:
* `MembersAt`: what stands in a text that holds an object.
* `Follows.listItems`, `MembersAt.foldMembers`: arrays and objects are followed part by part.
* `follows_text`, `Follows.nullOr`, `follows_texts`, `follows_textDict`, `follows_valueType`,
  `follows_value`: the readers of envelopes follow their decoders.
-/

namespace HomeBus.Json.Reader

/-! ## Arrays and objects in a text -/

/-- A text that holds the members of an object up to its closing brace, read in so many rounds: the
    members and the rest. -/
inductive MembersAt (room : ℕ) : ℕ → Bool → Bytes → List (String × Json) → Bytes → Prop where
  | close {rounds first bytes rest} (front : skipBlank bytes = 0x7D :: rest) :
      MembersAt room (rounds + 1) first bytes [] rest
  | member {rounds first bytes b tail start key behind value w left members rest}
      (front : skipBlank bytes = b :: tail) (more : b ≠ 0x7D)
      (begin : keyStart first b tail = .ok start) (name : string start = .ok (key, behind))
      (colon : colon behind = .ok value) (head : written room value = .ok (w, left))
      (others : MembersAt room rounds false left members rest) :
      MembersAt room (rounds + 1) first bytes ((key, w) :: members) rest

variable {room rounds : ℕ} {first : Bool} {bytes rest : Bytes}

theorem membersAt_of_foldMembers {before members : List (String × Json)}
    (read : foldMembers (addMember (written room)) first rounds before bytes =
      .ok (members, rest)) :
    ∃ added, members = before ++ added ∧ MembersAt room rounds first bytes added rest := by
  induction rounds generalizing first bytes before with
  | zero => cases read
  | succ rounds ih =>
    obtain ⟨front, rfl⟩ | ⟨b, tail, start, key, behind, next, left, front, more, begin, name,
      member, others⟩ := foldMembers_cases read
    · exact ⟨[], (List.append_nil _).symm, .close front⟩
    · obtain ⟨value, colon, member⟩ := Outcome.bind_eq_ok_iff.1 member
      obtain ⟨⟨w, behind⟩, head, ⟨⟩⟩ := Outcome.bind_eq_ok_iff.1 member
      obtain ⟨added, rfl, object⟩ := ih others
      refine ⟨(key, w) :: added, List.append_assoc .., ?_⟩
      exact .member front more begin name colon head object

/-! ## The first byte tells the kind of a document -/

section

variable {b : UInt8} {tail : Bytes} {w : Json}

theorem Starts.null_iff (starts : Starts room b tail w rest) : b = 0x6E ↔ w = .null := by
  cases starts with
  | number digit read => exact iff_of_false (ne_of_isDigit digit (by decide)) nofun
  | _ => simp

theorem Starts.quote_iff (starts : Starts room b tail w rest) : b = 0x22 ↔ ∃ s, w = .str s := by
  cases starts with
  | number digit read => exact iff_of_false (ne_of_isDigit digit (by decide)) nofun
  | _ => simp

theorem Starts.bracket_iff (starts : Starts room b tail w rest) :
    b = 0x5B ↔ ∃ items, w = .arr items := by
  cases starts with
  | number digit read => exact iff_of_false (ne_of_isDigit digit (by decide)) nofun
  | _ => simp

theorem Starts.brace_iff (starts : Starts room b tail w rest) :
    b = 0x7B ↔ ∃ members, w = .obj members := by
  cases starts with
  | number digit read => exact iff_of_false (ne_of_isDigit digit (by decide)) nofun
  | _ => simp

theorem Starts.read_null (starts : Starts room b tail .null rest) :
    keyword nullTail tail = .ok rest := by
  cases starts with
  | null word => exact word

theorem Starts.read_text {s : String} (starts : Starts room b tail (.str s) rest) :
    string tail = .ok (s, rest) := by
  cases starts with
  | text read => exact read

/-- The items of an array have one level less room. -/
theorem Starts.read_list {items : List Json} (starts : Starts room b tail (.arr items) rest) :
    ∃ inner, room = inner + 1 ∧
      ItemsAt (written inner) (tail.length + 1) Bool.true tail items rest := by
  cases starts with
  | list read => exact ⟨_, rfl, itemsAt_of_listItems read⟩

/-- The members of an object have one level less room. -/
theorem Starts.read_object {members : List (String × Json)}
    (starts : Starts room b tail (.obj members) rest) :
    ∃ inner, room = inner + 1 ∧ MembersAt inner (tail.length + 1) Bool.true tail members rest := by
  cases starts with
  | object read =>
    obtain ⟨added, rfl, members⟩ := membersAt_of_foldMembers read
    exact ⟨_, rfl, members⟩

theorem isBlank_of_skipBlank (front : skipBlank bytes = b :: tail) : isBlank b = false := by
  induction bytes with
  | nil => cases front
  | cons c bytes ih =>
    rw [skipBlank] at front
    split_ifs at front with blank
    · exact ih front
    · cases front
      exact Bool.not_eq_true _ ▸ blank

theorem skipBlank_of_skipBlank (front : skipBlank bytes = b :: tail) :
    skipBlank (b :: tail) = b :: tail := by
  rw [skipBlank, isBlank_of_skipBlank front, if_neg Bool.false_ne_true]

end

/-! ## Readers that follow decoders -/

section

variable {α σ : Type} {reader : Reader α} {decoder : Decoder α}

/-- A reader finds at the front of a text what a decoder finds in the document that is written
    there, and leaves the same rest. -/
def Follows (room : ℕ) (reader : Reader α) (decoder : Decoder α) : Prop :=
  ∀ bytes w rest, written room bytes = .ok (w, rest) →
    (reader bytes).toOption = (decoder w).toOption.map (·, rest)

theorem toOption_refuse (expected : String) (bytes : Bytes) :
    (refuse expected bytes : Except Error (α × Bytes)).toOption = none := by
  unfold refuse
  cases foundAt bytes <;> rfl

/-- What a reader that follows a decoder makes of a text that holds a document. -/
theorem Follows.cases (h : Follows room reader decoder) {w : Json}
    (read : written room bytes = .ok (w, rest)) :
    (∃ e e', decoder w = .error e ∧ reader bytes = .error e') ∨
      ∃ a, decoder w = .ok a ∧ reader bytes = .ok (a, rest) := by
  have same := h bytes w rest read
  cases found : decoder w with
  | error e =>
    rw [found] at same
    obtain ⟨e', stopped⟩ := Outcome.toOption_eq_none_iff.1 same
    exact .inl ⟨e, e', rfl, stopped⟩
  | ok a =>
    rw [found] at same
    exact .inr ⟨a, rfl, Outcome.toOption_eq_some_iff.1 same⟩

theorem follows_value (room : ℕ) : Follows room (value room) fun w => .ok w.collapse := by
  intro bytes w rest read
  rw [value_eq_written, read]
  rfl

theorem follows_text (room : ℕ) : Follows room text Decoder.text := by
  intro bytes w rest read
  obtain ⟨b, tail, front, starts⟩ := written_eq_ok_iff.1 read
  unfold text
  rw [front]
  simp only
  by_cases quote : b = 0x22
  · obtain ⟨s, rfl⟩ := starts.quote_iff.1 quote
    rw [if_pos quote, starts.read_text]
    rfl
  · rw [if_neg quote, toOption_refuse]
    cases w with
    | str s => exact absurd (starts.quote_iff.2 ⟨s, rfl⟩) quote
    | _ => rfl

theorem follows_nullOnly (room : ℕ) : Follows room nullOnly Decoder.nullOnly := by
  intro bytes w rest read
  obtain ⟨b, tail, front, starts⟩ := written_eq_ok_iff.1 read
  unfold nullOnly
  rw [front]
  simp only
  by_cases null : b = 0x6E
  · obtain rfl := starts.null_iff.1 null
    rw [if_pos null, starts.read_null]
    rfl
  · rw [if_neg null, toOption_refuse]
    cases w with
    | null => exact absurd (starts.null_iff.2 rfl) null
    | _ => rfl

theorem Follows.nullOr (h : Follows room reader decoder) :
    Follows room (nullOr reader) (Decoder.nullOr decoder) := by
  intro bytes w rest read
  obtain ⟨b, tail, front, starts⟩ := written_eq_ok_iff.1 read
  unfold Reader.nullOr
  rw [front]
  simp only
  by_cases null : b = 0x6E
  · obtain rfl := starts.null_iff.1 null
    rw [if_pos null, starts.read_null]
    rfl
  · have again := written_eq_ok_iff.2 ⟨b, tail, skipBlank_of_skipBlank front, starts⟩
    have other : Decoder.nullOr decoder w = (decoder w).map some := by
      cases w with
      | null => exact absurd (starts.null_iff.2 rfl) null
      | _ => rfl
    rw [if_neg null, other, Outcome.toOption_bind, h _ _ _ again, Outcome.toOption_map]
    cases (decoder w).toOption <;> rfl

/-- An array is followed item by item. -/
theorem Follows.listItems (h : Follows room reader decoder) {items : List Json}
    (list : ItemsAt (written room) rounds first bytes items rest) :
    (listItems reader first rounds bytes).toOption =
      (items.mapM decoder).toOption.map (·, rest) := by
  induction list with
  | close front =>
    rw [listItems_succ, front]
    rfl
  | item front more begin head others ih =>
    rw [listItems_succ, front]
    simp only
    rw [if_neg more, begin, List.mapM_cons]
    simp only [Outcome.toOption_bind, Outcome.toOption_ok, Option.bind_some]
    obtain ⟨e, e', refused, stopped⟩ | ⟨a, found, read⟩ := h.cases head
    · rw [refused, stopped]
      rfl
    · rw [found, read]
      simp only [Outcome.toOption_ok, Option.bind_some, ih]
      cases List.mapM decoder _ <;> rfl

/-- An object is followed member by member. -/
theorem MembersAt.foldMembers {member : σ → String → Reader σ}
    {step : σ → String × Json → Except Mismatch σ} {members : List (String × Json)}
    (h : ∀ state key behind value w left, colon behind = .ok value →
      written room value = .ok (w, left) →
      (member state key behind).toOption = (step state (key, w)).toOption.map (·, left))
    (object : MembersAt room rounds first bytes members rest)
    (state : σ) :
    (foldMembers member first rounds state bytes).toOption =
      (members.foldlM step state).toOption.map (·, rest) := by
  induction object generalizing state with
  | close front =>
    rw [foldMembers_succ, front]
    rfl
  | member front more begin name colon head others ih =>
    rw [foldMembers_succ, front]
    simp only
    rw [if_neg more, begin, List.foldlM_cons]
    simp only [name, formed, Outcome.toOption_bind, Outcome.toOption_ok, Option.bind_some,
      h _ _ _ _ _ _ colon head]
    cases step state _ with
    | error e => rfl
    | ok next => exact ih next

end

/-! ## Tags, properties and value types -/

theorem follows_texts (room : ℕ) : Follows room texts (Decoder.listOf Decoder.text) := by
  intro bytes w rest read
  obtain ⟨b, tail, front, starts⟩ := written_eq_ok_iff.1 read
  unfold texts
  rw [front]
  simp only
  by_cases bracket : b = 0x5B
  · obtain ⟨items, rfl⟩ := starts.bracket_iff.1 bracket
    obtain ⟨inner, rfl, list⟩ := starts.read_list
    rw [if_pos bracket]
    exact (follows_text inner).listItems list
  · rw [if_neg bracket, toOption_refuse]
    cases w with
    | arr items => exact absurd (starts.bracket_iff.2 ⟨items, rfl⟩) bracket
    | _ => rfl

theorem foldl_insert_empty (pairs : List (String × String)) :
    pairs.foldl (fun dict pair => dict.insert pair.1 pair.2) Dict.empty = Dict.ofList pairs := by
  have same : ∀ dict : Dict String,
      (pairs.foldl (fun dict pair => dict.insert pair.1 pair.2) dict).entries =
        pairs.foldl (fun entries pair => Entries.insert pair.1 pair.2 entries) dict.entries := by
    induction pairs with
    | nil => exact fun dict => rfl
    | cons pair pairs ih => exact fun dict => ih _
  exact Dict.mk.injEq .. ▸ same Dict.empty

/-- Reads a property into a dictionary. -/
def putText (dict : Dict String) (key : String) : Reader (Dict String) := fun bytes => do
  let rest ← colon bytes
  let (value, rest) ← text rest
  return (dict.insert key value, rest)

theorem toOption_putText (dict : Dict String) (key : String) {behind value left : Bytes} {w : Json}
    (passed : colon behind = .ok value) (head : written room value = .ok (w, left)) :
    (putText dict key behind).toOption =
      ((Decoder.textEntry (key, w)).map fun entry => dict.insert entry.1 entry.2).toOption.map
        (·, left) := by
  unfold putText Decoder.textEntry
  rw [passed]
  obtain ⟨e, e', refused, stopped⟩ | ⟨s, found, read⟩ := (follows_text room).cases head
  · rw [refused]
    simp only [bind, Except.bind, stopped]
    rfl
  · rw [found]
    simp only [bind, Except.bind, read]
    rfl

theorem follows_textDict (room : ℕ) : Follows room textDict (Decoder.dictOf Decoder.text) := by
  intro bytes w rest read
  obtain ⟨b, tail, front, starts⟩ := written_eq_ok_iff.1 read
  unfold textDict
  rw [front]
  simp only
  by_cases brace : b = 0x7B
  · obtain ⟨members, rfl⟩ := starts.brace_iff.1 brace
    obtain ⟨inner, rfl, object⟩ := starts.read_object
    have folded : (foldMembers putText true (tail.length + 1) Dict.empty tail).toOption =
        (members.foldlM (fun dict m => (Decoder.textEntry m).map fun entry =>
          dict.insert entry.1 entry.2) Dict.empty).toOption.map (·, rest) :=
      object.foldMembers (fun dict key _ _ _ _ passed head => toOption_putText dict key passed head)
        Dict.empty
    rw [Outcome.foldlM_map Decoder.textEntry fun (dict : Dict String) entry =>
      dict.insert entry.1 entry.2] at folded
    simp only [foldl_insert_empty] at folded
    rw [if_pos brace]
    exact folded
  · rw [if_neg brace, toOption_refuse]
    cases w with
    | obj members => exact absurd (starts.brace_iff.2 ⟨members, rfl⟩) brace
    | _ => rfl

theorem keyStart_true_eq_ok_iff {b : UInt8} {start : Bytes} :
    keyStart true b rest = .ok start ↔ b = 0x22 ∧ rest = start := by
  rw [keyStart, if_pos rfl, firstKey]
  split_ifs with quote
  · exact ⟨fun h => ⟨quote, Except.ok.inj h⟩, fun h => congrArg Except.ok h.2⟩
  · exact iff_of_false nofun fun h => quote h.1

/-- An object stands for a value type when it has one member only. -/
theorem toOption_decoder_obj (key : String) (w : Json) (more : List (String × Json)) :
    (ValueType.decoder (.obj ((key, w) :: more))).toOption =
      if more = [] then (do
        let t ← ValueType.ofTag key
        Decoder.nullOnly w
        return t : Except Mismatch ValueType).toOption
      else none := by
  cases more <;> rfl

/-- The closing brace follows the first member when there is no other one. -/
theorem MembersAt.closes_iff {members : List (String × Json)}
    (others : MembersAt room rounds first bytes members rest) :
    ∃ b tail, skipBlank bytes = b :: tail ∧ (b = 0x7D ↔ members = []) ∧
      (members = [] → tail = rest) := by
  cases others with
  | close front => exact ⟨_, _, front, iff_of_true rfl rfl, fun _ => rfl⟩
  | member front more => exact ⟨_, _, front, iff_of_false more nofun, nofun⟩

theorem follows_valueType (room : ℕ) : Follows room ValueType.reader ValueType.decoder := by
  intro bytes w rest read
  obtain ⟨b, tail, front, starts⟩ := written_eq_ok_iff.1 read
  unfold ValueType.reader
  rw [front]
  simp only
  by_cases quote : b = 0x22
  · obtain ⟨s, rfl⟩ := starts.quote_iff.1 quote
    rw [if_pos quote, starts.read_text]
    simp only [formed, ValueType.decoder, bind, Except.bind]
    cases ValueType.ofTag s <;> rfl
  rw [if_neg quote]
  by_cases brace : b = 0x7B
  · obtain ⟨members, rfl⟩ := starts.brace_iff.1 brace
    obtain ⟨inner, rfl, object⟩ := starts.read_object
    rw [if_pos brace]
    cases object with
    | close front =>
      rw [front]
      rfl
    | member front more begin name colon head others =>
      obtain ⟨rfl, rfl⟩ := keyStart_true_eq_ok_iff.1 begin
      obtain ⟨b, tail, closing, last, end_⟩ := others.closes_iff
      rw [front, toOption_decoder_obj]
      simp only [↓reduceIte, name, formed, bind, Except.bind]
      cases ValueType.ofTag _ with
      | error e => split_ifs <;> rfl
      | ok t =>
        simp only [colon]
        obtain ⟨e, e', refused, stopped⟩ | ⟨_, found, passed⟩ := (follows_nullOnly inner).cases head
        · rw [refused, stopped]
          split_ifs <;> rfl
        · rw [found, passed]
          simp only [closing]
          split_ifs with brace alone alone
          · rw [end_ alone]
            rfl
          · exact absurd (last.1 brace) alone
          · exact absurd (last.2 alone) brace
          · rfl
  · rw [if_neg brace]
    cases w with
    | str s => exact absurd (starts.quote_iff.2 ⟨s, rfl⟩) quote
    | obj members => exact absurd (starts.brace_iff.2 ⟨members, rfl⟩) brace
    | _ => rfl

end HomeBus.Json.Reader
