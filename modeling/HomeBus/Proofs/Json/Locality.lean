import HomeBus.Proofs.Json.Form
import HomeBus.Proofs.Json.Typed

/-!
# A document is read off its own text

What is read of a document depends on the text of the document alone, wherever that stands. The
bytes behind it only have to leave a number at its end alone.

Results:
* `exists_text_of_written`: a document that is read stands in a text with the form of a value, and
  is read of this text whatever follows.
* `keyStart_append`, `itemStart_append`: what stands before a key or an item is passed.
-/

namespace HomeBus.Json

open Reader (Bracket Part Spans Starts ItemsAt MembersAt written keyStart itemStart written_eq_ok_iff)

variable {room rounds : ℕ} {first : Bool} {bytes rest tail lead v : Bytes} {b : UInt8}
  {separator : Bytes} {value : Json}

/-! ## Before keys and items -/

/-- What stands before a key is passed, up to the key. -/
theorem keyStart_append (separated : Separator first separator) (blank : Blank lead)
    (start : Bytes) :
    ∃ b tail, skipBlank (separator ++ (lead ++ 0x22 :: start)) = b :: tail ∧ b ≠ 0x7D ∧
      keyStart first b tail = .ok start := by
  have quote : skipBlank (lead ++ 0x22 :: start) = 0x22 :: start :=
    (skipBlank_append blank _).trans (skipBlank_of_isBlank (by decide) _)
  cases separated with
  | first => exact ⟨0x22, start, quote, by decide, Reader.keyStart_true_eq_ok_iff.2 ⟨rfl, rfl⟩⟩
  | comma blank' =>
    refine ⟨0x2C, lead ++ 0x22 :: start, ?_, by decide, ?_⟩
    · rw [List.append_assoc, skipBlank_append blank']
      exact skipBlank_of_isBlank (by decide) _
    · rw [keyStart, if_neg Bool.false_ne_true, Reader.memberComma, if_pos rfl, quote]
      simp only [↓reduceIte]

/-- What stands before an item is passed, up to the item. -/
theorem itemStart_append (separated : Separator first separator) (blank : Blank lead)
    (form : Form .value v) (rest : Bytes) :
    ∃ b tail, skipBlank (separator ++ (lead ++ (v ++ rest))) = b :: tail ∧ b ≠ 0x5D ∧
      itemStart first b tail = .ok (v ++ rest) := by
  obtain ⟨c, v, rfl, solid, open_⟩ := form.eq_cons
  have item : skipBlank (lead ++ (c :: v ++ rest)) = c :: v ++ rest :=
    (skipBlank_append blank _).trans (skipBlank_of_isBlank solid _)
  cases separated with
  | first => exact ⟨c, v ++ rest, item, open_, rfl⟩
  | comma blank' =>
    refine ⟨0x2C, lead ++ (c :: v ++ rest), ?_, by decide, ?_⟩
    · rw [List.append_assoc, skipBlank_append blank']
      exact skipBlank_of_isBlank (by decide) _
    · rw [itemStart, if_neg Bool.false_ne_true, Reader.listComma, if_pos rfl, item, List.cons_append]
      simp only
      rw [if_neg open_]

/-- What stands before an item that is read. -/
theorem exists_separator_of_itemStart {start : Bytes} (front : skipBlank bytes = b :: tail)
    (begin : itemStart first b tail = .ok start) :
    ∃ separator lead, Separator first separator ∧ Blank lead ∧
      bytes = separator ++ (lead ++ start) := by
  obtain ⟨lead, blank, rfl⟩ := exists_blank_of_skipBlank front
  cases first with
  | true =>
    cases begin
    exact ⟨[], lead, .first, blank, rfl⟩
  | false =>
    obtain ⟨rfl, passed, -⟩ := Reader.skipBlank_of_listComma begin
    obtain ⟨lead', blank', rfl⟩ := exists_blank_of_skipBlank passed
    exact ⟨_, lead', .comma blank, blank', by simp⟩

/-- What stands before a key that is read. -/
theorem exists_separator_of_keyStart {start : Bytes} (front : skipBlank bytes = b :: tail)
    (begin : keyStart first b tail = .ok start) :
    ∃ separator lead, Separator first separator ∧ Blank lead ∧
      bytes = separator ++ (lead ++ 0x22 :: start) := by
  obtain ⟨lead, blank, rfl⟩ := exists_blank_of_skipBlank front
  cases first with
  | true =>
    obtain ⟨rfl, rfl⟩ := Reader.keyStart_true_eq_ok_iff.1 begin
    exact ⟨[], lead, .first, blank, rfl⟩
  | false =>
    obtain ⟨rfl, passed⟩ := Reader.skipBlank_of_memberComma begin
    obtain ⟨lead', blank', rfl⟩ := exists_blank_of_skipBlank passed
    exact ⟨_, lead', .comma blank, blank', by simp⟩

/-! ## Texts of documents -/

/-- A document stands at the front of some bytes in a text of its own, and is read of this text
    whatever follows. -/
def OwnText (room : ℕ) (bytes : Bytes) (value : Json) (rest : Bytes) : Prop :=
  ∃ lead w, Blank lead ∧ Form .value w ∧ bytes = lead ++ (w ++ rest) ∧
    ∀ rest', Ends rest' → written room (w ++ rest') = .ok (value, rest')

theorem written_of_skipBlank {bytes' : Bytes} (same : skipBlank bytes = skipBlank bytes')
    (read : written room bytes = .ok (value, rest)) : written room bytes' = .ok (value, rest) :=
  Reader.written_congr same ▸ read

theorem exists_text_of_itemsAt {items : List Json}
    (h : ∀ bytes value rest, written room bytes = .ok (value, rest) → Ends rest →
      OwnText room bytes value rest)
    (list : ItemsAt (written room) rounds first bytes items rest) :
    ∃ w, Form (.inside .list first) w ∧ bytes = w ++ rest ∧ items.length < w.length ∧
      ∀ rest', ItemsAt (written room) rounds first (w ++ rest') items rest' := by
  induction list with
  | close front =>
    obtain ⟨lead, blank, rfl⟩ := exists_blank_of_skipBlank front
    refine ⟨_, .close blank, by simp [Bracket.close], by simp, fun rest' => .close ?_⟩
    rw [List.append_assoc, skipBlank_append blank]
    exact skipBlank_of_isBlank (by decide) _
  | item front more begin head others ih =>
    obtain ⟨w, form, rfl, enough, list⟩ := ih
    obtain ⟨lead', v, blank', value, rfl, read⟩ := h _ _ _ head (form.ends _)
    obtain ⟨separator, lead, separated, blank, rfl⟩ := exists_separator_of_itemStart front begin
    have together := blank.append blank'
    refine ⟨separator ++ ((lead ++ lead') ++ (v ++ w)), .next separated (.item together) value form,
      by simp, ?_, fun rest' => ?_⟩
    · obtain ⟨_, _, rfl, -⟩ := value.eq_cons
      simp only [List.length_append, List.length_cons]
      omega
    · obtain ⟨b, tail, front, more, begin⟩ :=
        itemStart_append separated together value (w ++ rest')
      simp only [List.append_assoc] at front ⊢
      exact .item front more begin (read _ (form.ends rest')) (list rest')

theorem exists_text_of_membersAt {members : List (String × Json)}
    (h : ∀ bytes value rest, written room bytes = .ok (value, rest) → Ends rest →
      OwnText room bytes value rest)
    (object : MembersAt room rounds first bytes members rest) :
    ∃ w, Form (.inside .object first) w ∧ bytes = w ++ rest ∧ members.length < w.length ∧
      ∀ rest', MembersAt room rounds first (w ++ rest') members rest' := by
  induction object with
  | close front =>
    obtain ⟨lead, blank, rfl⟩ := exists_blank_of_skipBlank front
    refine ⟨_, .close blank, by simp [Bracket.close], by simp, fun rest' => .close ?_⟩
    rw [List.append_assoc, skipBlank_append blank]
    exact skipBlank_of_isBlank (by decide) _
  | member front more begin name colon head others ih =>
    obtain ⟨w, form, rfl, enough, object⟩ := ih
    obtain ⟨pad, v, blank', value, rfl, read⟩ := h _ _ _ head (form.ends _)
    obtain ⟨gap, between, rfl⟩ := exists_blank_of_skipBlank (Reader.colon_eq_ok_iff.1 colon)
    obtain ⟨key, content, rfl, same⟩ := exists_content_of_string name
    obtain ⟨separator, lead, separated, blank, rfl⟩ := exists_separator_of_keyStart front begin
    refine ⟨_, .next separated (.member blank content between blank') value form, by simp, ?_,
      fun rest' => ?_⟩
    · obtain ⟨_, _, rfl, -⟩ := value.eq_cons
      simp only [List.length_append, List.length_cons]
      omega
    · obtain ⟨b, tail, front, more, begin⟩ := keyStart_append separated blank
        (key ++ 0x22 :: (gap ++ 0x3A :: (pad ++ (v ++ (w ++ rest')))))
      have colon : Reader.colon (gap ++ 0x3A :: (pad ++ (v ++ (w ++ rest')))) =
          .ok (pad ++ (v ++ (w ++ rest'))) := Reader.colon_eq_ok_iff.2
        ((skipBlank_append between _).trans (skipBlank_of_isBlank (by decide) _))
      simp only [List.append_assoc, List.cons_append] at front ⊢
      refine .member front more begin (same _) colon ?_ (object rest')
      exact written_of_skipBlank (skipBlank_append blank' _).symm (read _ (form.ends rest'))

/-- A document that is read stands in a text of its own. -/
theorem exists_text_of_written (read : written room bytes = .ok (value, rest)) (ends : Ends rest) :
    OwnText room bytes value rest := by
  induction room using Nat.strongRecOn generalizing bytes value rest with
  | _ room ih =>
    obtain ⟨b, tail, front, starts⟩ := written_eq_ok_iff.1 read
    obtain ⟨lead, blank, rfl⟩ := exists_blank_of_skipBlank front
    cases starts with
    | null word =>
      obtain rfl := eq_append_of_keyword word
      refine ⟨lead, _, blank, .null, rfl, fun rest' _ => ?_⟩
      exact written_eq_ok_iff.2 ⟨_, _, rfl, .null (keyword_append nullTail rest')⟩
    | true word =>
      obtain rfl := eq_append_of_keyword word
      refine ⟨lead, _, blank, .true, rfl, fun rest' _ => ?_⟩
      exact written_eq_ok_iff.2 ⟨_, _, rfl, .true (keyword_append trueTail rest')⟩
    | false word =>
      obtain rfl := eq_append_of_keyword word
      refine ⟨lead, _, blank, .false, rfl, fun rest' _ => ?_⟩
      exact written_eq_ok_iff.2 ⟨_, _, rfl, .false (keyword_append falseTail rest')⟩
    | negative found =>
      obtain ⟨m, magnitude, rfl⟩ := exists_magnitude (skipNumber_of_number found)
      obtain ⟨outcome, same⟩ := exists_number_append magnitude Bool.true
      refine ⟨lead, _, blank, .negative magnitude, rfl, fun rest' ends' => ?_⟩
      rw [same rest ends] at found
      refine written_eq_ok_iff.2 ⟨_, _, rfl, .negative ((same rest' ends').trans ?_)⟩
      cases outcome <;> cases found
      rfl
    | number digit found =>
      obtain ⟨m, magnitude, split⟩ := exists_magnitude (skipNumber_of_number found)
      obtain ⟨outcome, same⟩ := exists_number_append magnitude Bool.false
      refine ⟨lead, m, blank, .number magnitude, by rw [split], fun rest' ends' => ?_⟩
      rw [split, same rest ends] at found
      obtain ⟨c, m, rfl, digit⟩ := magnitude.eq_cons
      refine written_eq_ok_iff.2 ⟨c, m ++ rest', skipBlank_of_isBlank (isBlank_of_isDigit digit) _,
        .number digit ((same rest' ends').trans ?_)⟩
      cases outcome <;> cases found
      rfl
    | text found =>
      obtain ⟨c, content, rfl, same⟩ := exists_content_of_string found
      refine ⟨lead, _, blank, .string content, by simp, fun rest' _ => ?_⟩
      simp only [List.cons_append, List.append_assoc]
      exact written_eq_ok_iff.2 ⟨_, _, rfl, .text (same rest')⟩
    | @list inner _ items _ found =>
      obtain ⟨w, form, rfl, enough, list⟩ := exists_text_of_itemsAt
        (fun _ _ _ => ih inner (Nat.lt_succ_self _)) (Reader.itemsAt_of_listItems found)
      refine ⟨lead, _, blank, .bracket form, rfl, fun rest' _ => ?_⟩
      have fits : items.length < (w ++ rest').length + 1 := by
        rw [List.length_append]
        omega
      exact written_eq_ok_iff.2 ⟨_, _, rfl, .list ((list rest').listItems fits)⟩
    | @object inner _ members _ found =>
      obtain ⟨_, rfl, object⟩ := Reader.membersAt_of_foldMembers found
      obtain ⟨w, form, rfl, enough, object⟩ := exists_text_of_membersAt
        (fun _ _ _ => ih inner (Nat.lt_succ_self _)) object
      refine ⟨lead, _, blank, .bracket form, rfl, fun rest' _ => ?_⟩
      have fits : members.length < (w ++ rest').length + 1 := by
        rw [List.length_append]
        omega
      exact written_eq_ok_iff.2 ⟨_, _, rfl, .object ((object rest').addMembers fits)⟩

end HomeBus.Json
