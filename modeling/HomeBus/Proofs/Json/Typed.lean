import HomeBus.Proofs.Json.Skipping

/-!
# Readers of a known shape read documents

What a reader takes off the front of a text, if it succeeds, is a document: `Reader.written` takes
the same bytes. A reader `Takes` documents when it does so with so much room for arrays and objects
one inside the other.

Results: `takes_text`, `Takes.nullOr`, `takes_texts`, `takes_textDict`, `takes_valueType`,
`takes_value`.
-/

namespace HomeBus.Json.Reader

variable {α σ : Type} {reader : Reader α} {room rounds : ℕ} {first : Bool} {bytes rest : Bytes}

/-- What a reader takes is a document. -/
def Takes (room : ℕ) (reader : Reader α) : Prop :=
  ∀ bytes a rest, reader bytes = .ok (a, rest) → ∃ w, written room bytes = .ok (w, rest)

theorem refuse_ne_ok (expected : String) (bytes : Bytes) (found : α × Bytes) :
    refuse expected bytes ≠ .ok found := by
  intro h
  have none := toOption_refuse (α := α) expected bytes
  rw [h] at none
  cases none

theorem takes_value (room : ℕ) : Takes room (value room) := by
  intro bytes a rest read
  rw [value_eq_written] at read
  cases found : written room bytes with
  | error e =>
    rw [found] at read
    cases read
  | ok there =>
    rw [found] at read
    cases read
    exact ⟨there.1, rfl⟩

theorem takes_text (room : ℕ) : Takes room text := by
  intro bytes s rest read
  unfold text at read
  cases front : skipBlank bytes with
  | nil =>
    rw [front] at read
    cases read
  | cons b tail =>
    rw [front] at read
    simp only at read
    split_ifs at read with quote
    · subst quote
      cases found : string tail with
      | error fault =>
        rw [found] at read
        cases read
      | ok there =>
        rw [found] at read
        cases read
        exact ⟨.str s, written_eq_ok_iff.2 ⟨_, _, front, .text found⟩⟩
    · exact absurd read (refuse_ne_ok _ _ _)

theorem takes_nullOnly (room : ℕ) : Takes room nullOnly := by
  intro bytes _ rest read
  unfold nullOnly at read
  cases front : skipBlank bytes with
  | nil =>
    rw [front] at read
    cases read
  | cons b tail =>
    rw [front] at read
    simp only at read
    split_ifs at read with null
    · subst null
      obtain ⟨_, word, ⟨⟩⟩ := formed_bind_eq_ok_iff.1 read
      exact ⟨.null, written_eq_ok_iff.2 ⟨_, _, front, .null word⟩⟩
    · exact absurd read (refuse_ne_ok _ _ _)

theorem Takes.nullOr (h : Takes room reader) : Takes room (nullOr reader) := by
  intro bytes _ rest read
  unfold Reader.nullOr at read
  cases front : skipBlank bytes with
  | nil =>
    rw [front] at read
    cases read
  | cons b tail =>
    rw [front] at read
    simp only at read
    split_ifs at read with null
    · subst null
      obtain ⟨_, word, ⟨⟩⟩ := formed_bind_eq_ok_iff.1 read
      exact ⟨.null, written_eq_ok_iff.2 ⟨_, _, front, .null word⟩⟩
    · obtain ⟨⟨a, left⟩, found, ⟨⟩⟩ := Outcome.bind_eq_ok_iff.1 read
      obtain ⟨w, there⟩ := h _ _ _ found
      obtain ⟨c, tail', front', starts⟩ := written_eq_ok_iff.1 there
      rw [skipBlank_of_skipBlank front] at front'
      exact ⟨w, written_eq_ok_iff.2 ⟨c, tail', front.trans front', starts⟩⟩

/-! ## Arrays and objects -/

/-- There are enough rounds for the items of an array when there are more than items. -/
theorem ItemsAt.listItems {item : Reader α} {items : List α} {n : ℕ}
    (list : ItemsAt item rounds first bytes items rest) (enough : items.length < n) :
    Reader.listItems item first n bytes = .ok (items, rest) := by
  induction list generalizing n with
  | close front =>
    obtain ⟨n, rfl⟩ := Nat.exists_eq_succ_of_ne_zero (Nat.ne_zero_of_lt enough)
    rw [listItems_succ, front]
    rfl
  | item front more begin head others ih =>
    obtain ⟨n, rfl⟩ := Nat.exists_eq_succ_of_ne_zero (Nat.ne_zero_of_lt enough)
    rw [listItems_succ, front]
    simp only
    rw [if_neg more, begin, Outcome.ok_bind, head, Outcome.ok_bind,
      ih (Nat.lt_of_succ_lt_succ enough)]
    rfl

theorem ItemsAt.length_lt {item : Reader α} {items : List α}
    (list : ItemsAt item rounds first bytes items rest) : items.length < rounds := by
  induction list with
  | close => exact Nat.succ_pos _
  | item _ _ _ _ _ ih => exact Nat.succ_lt_succ ih

/-- There are enough rounds for the members of an object when there are more than members. -/
theorem MembersAt.addMembers {before members : List (String × Json)} {n : ℕ}
    (object : MembersAt room rounds first bytes members rest) (enough : members.length < n) :
    Reader.foldMembers (addMember (written room)) first n before bytes =
      .ok (before ++ members, rest) := by
  induction object generalizing n before with
  | close front =>
    obtain ⟨n, rfl⟩ := Nat.exists_eq_succ_of_ne_zero (Nat.ne_zero_of_lt enough)
    rw [foldMembers_succ, front, List.append_nil]
    rfl
  | member front more begin name colon head others ih =>
    obtain ⟨n, rfl⟩ := Nat.exists_eq_succ_of_ne_zero (Nat.ne_zero_of_lt enough)
    rw [foldMembers_succ, front]
    simp only
    rw [if_neg more, begin, Outcome.ok_bind, name, formed, Outcome.ok_bind, addMember, colon]
    simp only [Outcome.ok_bind, head]
    refine (ih (Nat.lt_of_succ_lt_succ enough)).trans ?_
    rw [List.append_assoc, List.singleton_append]

theorem MembersAt.length_lt {members : List (String × Json)}
    (object : MembersAt room rounds first bytes members rest) : members.length < rounds := by
  induction object with
  | close => exact Nat.succ_pos _
  | member _ _ _ _ _ _ _ ih => exact Nat.succ_lt_succ ih

/-- The items that a reader takes are documents. -/
theorem ItemsAt.takes {items : List α} (h : Takes room reader)
    (list : ItemsAt reader rounds first bytes items rest) :
    ∃ ws, ItemsAt (written room) rounds first bytes ws rest := by
  induction list with
  | close front => exact ⟨[], .close front⟩
  | item front more begin head others ih =>
    obtain ⟨w, here⟩ := h _ _ _ head
    obtain ⟨ws, there⟩ := ih
    exact ⟨w :: ws, .item front more begin here there⟩

/-- The members that are folded over are documents with keys. -/
theorem exists_membersAt {member : σ → String → Reader σ}
    (h : ∀ state key bytes next rest, member state key bytes = .ok (next, rest) →
      ∃ start w, colon bytes = .ok start ∧ written room start = .ok (w, rest))
    {state final : σ} (read : foldMembers member first rounds state bytes = .ok (final, rest)) :
    ∃ members, MembersAt room rounds first bytes members rest := by
  induction rounds generalizing first state bytes with
  | zero => cases read
  | succ rounds ih =>
    obtain ⟨front, -⟩ | ⟨b, tail, start, key, behind, next, left, front, more, begin, name, here,
      others⟩ := foldMembers_cases read
    · exact ⟨[], .close front⟩
    · obtain ⟨start, w, colon, value⟩ := h _ _ _ _ _ here
      obtain ⟨members, there⟩ := ih others
      exact ⟨(key, w) :: members, .member front more begin name colon value there⟩

theorem written_of_listOf {items : List α} {tail : Bytes} (h : Takes room reader)
    (front : skipBlank bytes = 0x5B :: tail) (read : listOf reader tail = .ok (items, rest)) :
    ∃ w, written (room + 1) bytes = .ok (w, rest) := by
  obtain ⟨ws, list⟩ := (itemsAt_of_listItems read).takes h
  exact ⟨.arr ws, written_eq_ok_iff.2 ⟨_, _, front, .list (list.listItems list.length_lt)⟩⟩

theorem written_of_membersOf {member : σ → String → Reader σ} {state final : σ} {tail : Bytes}
    (h : ∀ state key bytes next rest, member state key bytes = .ok (next, rest) →
      ∃ start w, colon bytes = .ok start ∧ written room start = .ok (w, rest))
    (front : skipBlank bytes = 0x7B :: tail)
    (read : membersOf member state tail = .ok (final, rest)) :
    ∃ w, written (room + 1) bytes = .ok (w, rest) := by
  obtain ⟨members, object⟩ := exists_membersAt h read
  exact ⟨.obj members,
    written_eq_ok_iff.2 ⟨_, _, front, .object (object.addMembers object.length_lt)⟩⟩

theorem takes_texts (room : ℕ) : Takes (room + 1) texts := by
  intro bytes list rest read
  unfold texts at read
  cases front : skipBlank bytes with
  | nil =>
    rw [front] at read
    cases read
  | cons b tail =>
    rw [front] at read
    simp only at read
    split_ifs at read with bracket
    · subst bracket
      exact written_of_listOf (takes_text room) front read
    · exact absurd read (refuse_ne_ok _ _ _)

theorem takes_textDict (room : ℕ) : Takes (room + 1) textDict := by
  intro bytes dict rest read
  unfold textDict at read
  cases front : skipBlank bytes with
  | nil =>
    rw [front] at read
    cases read
  | cons b tail =>
    rw [front] at read
    simp only at read
    split_ifs at read with brace
    · subst brace
      refine written_of_membersOf (fun dict key bytes next rest added => ?_) front read
      obtain ⟨start, colon, added⟩ := Outcome.bind_eq_ok_iff.1 added
      obtain ⟨⟨s, left⟩, value, ⟨⟩⟩ := Outcome.bind_eq_ok_iff.1 added
      obtain ⟨w, there⟩ := takes_text room _ _ _ value
      exact ⟨start, w, colon, there⟩
    · exact absurd read (refuse_ne_ok _ _ _)

/-- An object with one member is a document. -/
theorem written_object_singleton {tail key behind start left : Bytes} {name : String} {w : Json}
    (brace : skipBlank bytes = 0x7B :: tail) (quote : skipBlank tail = 0x22 :: key)
    (found : string key = .ok (name, behind)) (colon : colon behind = .ok start)
    (value : written room start = .ok (w, left)) (close : skipBlank left = 0x7D :: rest) :
    written (room + 1) bytes = .ok (.obj [(name, w)], rest) := by
  have object : MembersAt room 2 true tail [(name, w)] rest :=
    .member quote (by decide) (keyStart_true_eq_ok_iff.2 ⟨rfl, rfl⟩) found colon value (.close close)
  have fits : 1 < tail.length + 1 :=
    Nat.succ_lt_succ (Nat.zero_lt_of_lt (length_lt_of_skipBlank quote))
  exact written_eq_ok_iff.2 ⟨_, _, brace, .object (object.addMembers fits)⟩

theorem takes_valueType (room : ℕ) : Takes (room + 1) ValueType.reader := by
  intro bytes t rest read
  unfold ValueType.reader at read
  cases front : skipBlank bytes with
  | nil =>
    rw [front] at read
    cases read
  | cons b tail =>
    rw [front] at read
    simp only at read
    split_ifs at read with quote brace
    · subst quote
      obtain ⟨⟨name, left⟩, found, read⟩ := formed_bind_eq_ok_iff.1 read
      cases tag : ValueType.ofTag name with
      | error cause =>
        simp only [tag] at read
        cases read
      | ok t' =>
        simp only [tag] at read
        cases read
        exact ⟨.str name, written_eq_ok_iff.2 ⟨_, _, front, .text found⟩⟩
    · subst brace
      cases front' : skipBlank tail with
      | nil =>
        rw [front'] at read
        cases read
      | cons b' tail' =>
        rw [front'] at read
        simp only at read
        split_ifs at read with quote' close
        · subst quote'
          obtain ⟨⟨name, behind⟩, found, read⟩ := formed_bind_eq_ok_iff.1 read
          cases tag : ValueType.ofTag name with
          | error cause =>
            simp only [tag] at read
            cases read
          | ok t' =>
            simp only [tag] at read
            obtain ⟨start, colon, read⟩ := Outcome.bind_eq_ok_iff.1 read
            obtain ⟨⟨_, left⟩, null, read⟩ := Outcome.bind_eq_ok_iff.1 read
            obtain ⟨w, there⟩ := takes_nullOnly room _ _ _ null
            simp only at read
            cases last : skipBlank left with
            | nil =>
              rw [last] at read
              cases read
            | cons c end_ =>
              rw [last] at read
              simp only at read
              split_ifs at read with closing
              · subst closing
                cases read
                exact ⟨_, written_object_singleton front front' found colon there last⟩
              · cases read
        · cases read
        · cases read
    · cases read

end HomeBus.Json.Reader
