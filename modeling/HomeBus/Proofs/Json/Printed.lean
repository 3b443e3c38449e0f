import HomeBus.Json.Printer
import HomeBus.Proofs.Json.Numbers
import HomeBus.Proofs.Json.Strings
import HomeBus.Proofs.Json.Written

/-!
# Reading what was written

How the text of a document is put together, and how its arrays and objects are read: item by item
and member by member, if each item and each member is read back. Where a document nests deeper than
there is room, the reader stops at the first bracket that is too deep.

Results:
* `listOf_text`, `membersOf_text`: arrays and objects are read item by item and member by member.
* `mapM_fit`, `foldlM_fit`: all of them fit, or one of them is too deep.
* `written_int`: an integer is read back.
-/

namespace HomeBus.Json

/-! ## The text of a document -/

/-- The items of an array behind its first one. -/
def moreItems (items : List Json) : Bytes := items.flatMap fun item => 0x2C :: bytes item

/-- A member from its key's quotation mark on. -/
def memberBytes (member : String × Json) : Bytes :=
  0x22 :: (textBody member.1 ++ 0x3A :: bytes member.2)

/-- The members of an object behind its first one. -/
def moreMembers (members : List (String × Json)) : Bytes :=
  members.flatMap fun member => 0x2C :: memberBytes member

theorem encode_renderItems (item : Json) (rest : List Json) :
    Utf8.encode (renderItems (item :: rest)) = bytes item ++ moreItems rest := by
  induction rest generalizing item with
  | nil => rw [renderItems, Utf8.encode_append]; rfl
  | cons next more ih =>
    rw [renderItems, Utf8.encode_append, Utf8.encode_cons, ih next]
    rfl

theorem encode_renderMembers (member : String × Json) (rest : List (String × Json)) :
    Utf8.encode (renderMembers (member :: rest)) = memberBytes member ++ moreMembers rest := by
  have one : ∀ member : String × Json,
      Utf8.encode (stringText member.1 ++ ':' :: render member.2) = memberBytes member := by
    intro member
    rw [Utf8.encode_append, encode_stringText]
    rfl
  induction rest generalizing member with
  | nil => rw [renderMembers, Utf8.encode_append, one]; rfl
  | cons next more ih =>
    rw [renderMembers, Utf8.encode_append, one, Utf8.encode_cons, ih next]
    rfl

theorem bytes_str (s : String) : bytes (.str s) = 0x22 :: textBody s := encode_stringText s

theorem bytes_arr (items : List Json) :
    bytes (.arr items) = 0x5B :: (Utf8.encode (renderItems items) ++ [0x5D]) := by
  rw [bytes, render, Utf8.encode_append]
  rfl

theorem bytes_obj (members : List (String × Json)) :
    bytes (.obj members) = 0x7B :: (Utf8.encode (renderMembers members) ++ [0x7D]) := by
  rw [bytes, render, Utf8.encode_append]
  rfl

/-- An integer is a minus sign and digits, or digits alone. -/
theorem bytes_int (value : Int) (range) :
    bytes (.num (.int value range)) =
      if value < 0 then 0x2D :: Utf8.encode (natText value.natAbs)
      else Utf8.encode (natText value.natAbs) := by
  rw [bytes, render, Number.text, intText]
  split_ifs <;> rfl

theorem isBlank_of_isDigit {b : UInt8} (digit : isDigit b = true) : isBlank b = false := by
  simp only [isBlank, Bool.or_eq_false_iff, decide_eq_false_iff_not]
  exact ⟨⟨⟨Reader.ne_of_isDigit digit (by decide), Reader.ne_of_isDigit digit (by decide)⟩,
    Reader.ne_of_isDigit digit (by decide)⟩, Reader.ne_of_isDigit digit (by decide)⟩

/-- The first byte of a number. -/
theorem natText_eq_cons (n : ℕ) :
    ∃ b tail, Utf8.encode (natText n) = b :: tail ∧ isDigit b = true := by
  rw [encode_natText]
  cases front : decimals n with
  | nil =>
    rw [decimals, List.map_eq_nil_iff] at front
    exact absurd front Nat.toDigits_ne_nil
  | cons d ds =>
    have small : d < 10 := lt_of_mem_decimals (n := n) (by rw [front]; exact List.mem_cons_self)
    exact ⟨digitByte d, ds.map digitByte, rfl, isDigit_digitByte small⟩

/-- A text that starts with neither a blank nor a closing bracket. -/
def Solid (text : Bytes) : Prop := ∃ b tail, text = b :: tail ∧ isBlank b = false ∧ b ≠ 0x5D

theorem skipBlank_of_isBlank {b : UInt8} (h : isBlank b = false) (rest : Bytes) :
    skipBlank (b :: rest) = b :: rest := by
  rw [skipBlank, h, if_neg Bool.false_ne_true]

theorem ends_of_mark {b : UInt8} (digit : isDigit b = false) (point : b ≠ 0x2E)
    (exponent : isExponentMark b = false) (rest : Bytes) : Ends (b :: rest) := by
  rintro _ ⟨⟩
  exact ⟨digit, point, exponent⟩

/-! ## Items and members -/

open Reader

theorem ends_moreItems (items : List Json) (rest : Bytes) :
    Ends (moreItems items ++ 0x5D :: rest) := by
  cases items with
  | nil => exact ends_of_mark (by decide) (by decide) (by decide) rest
  | cons item more => exact ends_of_mark (by decide) (by decide) (by decide) _

theorem ends_moreMembers (members : List (String × Json)) (rest : Bytes) :
    Ends (moreMembers members ++ 0x7D :: rest) := by
  cases members with
  | nil => exact ends_of_mark (by decide) (by decide) (by decide) rest
  | cons member more => exact ends_of_mark (by decide) (by decide) (by decide) _

/-- The comma before an item is passed. -/
theorem listComma_bytes {v : Json} (solid : Solid (bytes v)) (rest : Bytes) :
    listComma 0x2C (bytes v ++ rest) = .ok (bytes v ++ rest) := by
  obtain ⟨b, tail, front, solid, open_⟩ := solid
  rw [listComma, if_pos rfl, front, List.cons_append, skipBlank_of_isBlank solid]
  simp only
  rw [if_neg open_]

/-- A key is read, up to the colon behind it. -/
theorem string_memberBytes (member : String × Json) (rest : Bytes) :
    ∃ start, memberBytes member ++ rest = 0x22 :: start ∧
      formed (string start) = .ok (member.1, 0x3A :: bytes member.2 ++ rest) := by
  refine ⟨textBody member.1 ++ (0x3A :: bytes member.2 ++ rest), ?_, ?_⟩
  · rw [memberBytes, List.cons_append, List.append_assoc]
  · rw [string_textBody, formed]

section

variable {α σ : Type} {item : Reader α} {read : Json → Except Error α} {items : List Json}
  {member : σ → String → Reader σ} {step : σ → String × Json → Except Error σ}
  {members : List (String × Json)} {rounds : ℕ}

/-- Items behind the first one are read one by one. -/
theorem listItems_text (solid : ∀ v ∈ items, Solid (bytes v))
    (h : ∀ v ∈ items, ∀ rest, Ends rest → item (bytes v ++ rest) = (read v).map (·, rest))
    (enough : items.length < rounds) (rest : Bytes) :
    listItems item false rounds (moreItems items ++ 0x5D :: rest) =
      (items.mapM read).map (·, rest) := by
  induction items generalizing rounds with
  | nil =>
    cases rounds with
    | zero => cases enough
    | succ rounds =>
      rw [listItems_succ]
      rfl
  | cons v items ih =>
    obtain ⟨here, others⟩ := List.forall_mem_cons.1 solid
    obtain ⟨now, later⟩ := List.forall_mem_cons.1 h
    cases rounds with
    | zero => cases enough
    | succ rounds =>
      have front : moreItems (v :: items) ++ 0x5D :: rest =
          0x2C :: (bytes v ++ (moreItems items ++ 0x5D :: rest)) := by
        rw [moreItems, List.flatMap_cons, List.append_assoc, List.cons_append]
        rfl
      rw [listItems_succ, front, skipBlank_of_isBlank (by decide)]
      simp only
      rw [if_neg (by decide), itemStart, if_neg Bool.false_ne_true, listComma_bytes here]
      simp only [bind, Except.bind]
      rw [now _ (ends_moreItems items rest), List.mapM_cons]
      cases read v with
      | error e => rfl
      | ok a =>
        simp only [Except.map]
        rw [ih others later (Nat.lt_of_succ_lt_succ enough)]
        cases items.mapM read <;> rfl

theorem length_le_moreItems (items : List Json) : items.length ≤ (moreItems items).length := by
  induction items with
  | nil => exact Nat.le_refl 0
  | cons v items ih =>
    rw [moreItems, List.flatMap_cons, ← moreItems, List.length_append]
    simp only [List.length_cons]
    omega

/-- An array is read item by item. -/
theorem listOf_text (solid : ∀ v ∈ items, Solid (bytes v))
    (h : ∀ v ∈ items, ∀ rest, Ends rest → item (bytes v ++ rest) = (read v).map (·, rest))
    (rest : Bytes) :
    listOf item (Utf8.encode (renderItems items) ++ 0x5D :: rest) =
      (items.mapM read).map (·, rest) := by
  cases items with
  | nil =>
    rw [listOf, listItems_succ]
    rfl
  | cons v items =>
    obtain ⟨here, others⟩ := List.forall_mem_cons.1 solid
    obtain ⟨now, later⟩ := List.forall_mem_cons.1 h
    obtain ⟨b, tail, front, solid, open_⟩ := here
    rw [encode_renderItems, List.append_assoc, listOf, listItems_succ]
    rw [front, List.cons_append, skipBlank_of_isBlank solid]
    simp only
    rw [if_neg open_, itemStart, if_pos rfl, ← List.cons_append, ← front]
    simp only [bind, Except.bind]
    rw [now _ (ends_moreItems items rest), List.mapM_cons]
    cases read v with
    | error e => rfl
    | ok a =>
      have enough := length_le_moreItems items
      simp only [Except.map]
      rw [listItems_text others later (by simp only [List.length_append, List.length_cons]; omega)]
      cases items.mapM read <;> rfl

/-- Members are read one by one. -/
theorem foldMembers_cons (first : Bool) (m : String × Json) (state : σ) (rounds : ℕ)
    (rest : Bytes) :
    foldMembers member first (rounds + 1) state
        ((if first then [] else [0x2C]) ++ memberBytes m ++ rest) =
      member state m.1 (0x3A :: bytes m.2 ++ rest) >>= fun next =>
        foldMembers member false rounds next.1 next.2 := by
  obtain ⟨start, front, key⟩ := string_memberBytes m rest
  rw [foldMembers_succ, List.append_assoc, front]
  cases first with
  | true =>
    rw [if_pos rfl, List.nil_append, skipBlank_of_isBlank (by decide)]
    simp only
    rw [if_neg (by decide), keyStart, if_pos rfl, firstKey, if_pos rfl]
    simp only [bind, Except.bind, key]
  | false =>
    rw [if_neg Bool.false_ne_true, List.singleton_append, skipBlank_of_isBlank (by decide)]
    simp only
    rw [if_neg (by decide), keyStart, if_neg Bool.false_ne_true, memberComma, if_pos rfl,
      skipBlank_of_isBlank (by decide)]
    simp only [↓reduceIte, bind, Except.bind, key]

theorem foldMembers_more (m : String × Json) (members : List (String × Json)) (state : σ)
    (rounds : ℕ) (rest : Bytes) :
    foldMembers member false (rounds + 1) state (moreMembers (m :: members) ++ rest) =
      member state m.1 (0x3A :: bytes m.2 ++ (moreMembers members ++ rest)) >>= fun next =>
        foldMembers member false rounds next.1 next.2 := by
  rw [← foldMembers_cons, moreMembers, List.flatMap_cons, List.append_assoc]
  rfl

/-- Members behind the first one are read one by one. -/
theorem foldMembers_text
    (h : ∀ state, ∀ m ∈ members, ∀ rest, Ends rest →
      member state m.1 (0x3A :: bytes m.2 ++ rest) = (step state m).map (·, rest))
    (enough : members.length < rounds) (state : σ) (rest : Bytes) :
    foldMembers member false rounds state (moreMembers members ++ 0x7D :: rest) =
      (members.foldlM step state).map (·, rest) := by
  induction members generalizing rounds state with
  | nil =>
    cases rounds with
    | zero => cases enough
    | succ rounds =>
      rw [foldMembers_succ]
      rfl
  | cons m members ih =>
    cases rounds with
    | zero => cases enough
    | succ rounds =>
      rw [foldMembers_more, h state m List.mem_cons_self _ (ends_moreMembers members rest),
        List.foldlM_cons]
      cases step state m with
      | error e => rfl
      | ok next =>
        exact ih (fun state m mem => h state m (List.mem_cons_of_mem _ mem))
          (Nat.lt_of_succ_lt_succ enough) next

theorem length_le_moreMembers (members : List (String × Json)) :
    members.length ≤ (moreMembers members).length := by
  induction members with
  | nil => exact Nat.le_refl 0
  | cons m members ih =>
    rw [moreMembers, List.flatMap_cons, ← moreMembers, List.length_append]
    simp only [List.length_cons]
    omega

variable (member) in
theorem membersOf_cons (m : String × Json) (members : List (String × Json)) (state : σ)
    (rest : Bytes) :
    ∃ rounds, members.length < rounds ∧
      membersOf member state (Utf8.encode (renderMembers (m :: members)) ++ 0x7D :: rest) =
        member state m.1 (0x3A :: bytes m.2 ++ (moreMembers members ++ 0x7D :: rest)) >>=
          fun next => foldMembers member false rounds next.1 next.2 := by
  have enough := length_le_moreMembers members
  refine ⟨(memberBytes m ++ (moreMembers members ++ 0x7D :: rest)).length, ?_, ?_⟩
  · rw [List.length_append, List.length_append, memberBytes, List.length_cons]
    omega
  · rw [← foldMembers_cons true, encode_renderMembers, List.append_assoc, membersOf]
    rfl

/-- An object is read member by member. -/
theorem membersOf_text
    (h : ∀ state, ∀ m ∈ members, ∀ rest, Ends rest →
      member state m.1 (0x3A :: bytes m.2 ++ rest) = (step state m).map (·, rest))
    (state : σ) (rest : Bytes) :
    membersOf member state (Utf8.encode (renderMembers members) ++ 0x7D :: rest) =
      (members.foldlM step state).map (·, rest) := by
  cases members with
  | nil =>
    rw [membersOf, foldMembers_succ]
    rfl
  | cons m members =>
    obtain ⟨rounds, enough, first⟩ := membersOf_cons member m members state rest
    rw [first, h state m List.mem_cons_self _ (ends_moreMembers members rest), List.foldlM_cons]
    cases step state m with
    | error e => rfl
    | ok next =>
      exact foldMembers_text (fun state m mem => h state m (List.mem_cons_of_mem _ mem)) enough next
        rest

end

/-! ## Documents -/

/-- What is left of a document where there is room for so many arrays and objects one inside the
    other. -/
def fit (room : ℕ) (v : Json) : Except Error Json :=
  if v.depth ≤ room then .ok v else malformed .tooDeep

theorem fit_of_le {room : ℕ} {v : Json} (h : v.depth ≤ room) : fit room v = .ok v := if_pos h

theorem fit_of_lt {room : ℕ} {v : Json} (h : room < v.depth) :
    fit room v = malformed .tooDeep := if_neg (Nat.not_le.2 h)

/-- All items fit, or one of them is too deep. -/
theorem mapM_fit (f : Json → Json) (room : ℕ) (items : List Json) :
    (items.mapM fun v => (fit room v).map f) =
      if itemsDepth items ≤ room then .ok (items.map f) else malformed .tooDeep := by
  induction items with
  | nil => exact (if_pos (Nat.zero_le _)).symm
  | cons item rest ih =>
    rw [List.mapM_cons, ih, itemsDepth]
    rcases Nat.lt_or_ge room item.depth with deep | here
    · rw [fit_of_lt deep, if_neg (show ¬max item.depth (itemsDepth rest) ≤ room by omega)]
      rfl
    · rw [fit_of_le here]
      rcases Nat.lt_or_ge room (itemsDepth rest) with deep | others
      · rw [if_neg (show ¬itemsDepth rest ≤ room by omega),
          if_neg (show ¬max item.depth (itemsDepth rest) ≤ room by omega)]
        rfl
      · rw [if_pos others, if_pos (show max item.depth (itemsDepth rest) ≤ room by omega)]
        rfl

/-- All members fit, or one of them is too deep. -/
theorem foldlM_fit (f : Json → Json) (room : ℕ) (before members : List (String × Json)) :
    members.foldlM (fun before m => (fit room m.2).map fun v => before ++ [(m.1, f v)]) before =
      if membersDepth members ≤ room then .ok (before ++ members.map fun m => (m.1, f m.2))
      else malformed .tooDeep := by
  induction members generalizing before with
  | nil =>
    rw [membersDepth, if_pos (Nat.zero_le _), List.map_nil, List.append_nil]
    rfl
  | cons m rest ih =>
    rw [List.foldlM_cons, membersDepth]
    rcases Nat.lt_or_ge room m.2.depth with deep | here
    · rw [fit_of_lt deep, if_neg (show ¬max m.2.depth (membersDepth rest) ≤ room by omega)]
      rfl
    · rw [fit_of_le here, List.map_cons, List.append_cons]
      refine (ih _).trans ?_
      rcases Nat.lt_or_ge room (membersDepth rest) with deep | others
      · rw [if_neg (show ¬membersDepth rest ≤ room by omega),
          if_neg (show ¬max m.2.depth (membersDepth rest) ≤ room by omega)]
      · rw [if_pos others, if_pos (show max m.2.depth (membersDepth rest) ≤ room by omega)]

/-- An integer is read back from its text. -/
theorem written_int (value : Int) (range) (room : ℕ) {rest : Bytes} (ends : Ends rest) :
    written room (bytes (.num (.int value range)) ++ rest) =
      .ok (.num (.int value range), rest) := by
  rw [bytes_int]
  by_cases negative : value < 0
  · obtain ⟨n, pos, rfl⟩ : ∃ n : ℕ, 0 < n ∧ value = -(n : Int) :=
      ⟨value.natAbs, by omega, by omega⟩
    rw [if_pos negative, Int.natAbs_neg, Int.natAbs_natCast, List.cons_append]
    exact written_eq_ok_iff.2 ⟨_, _, rfl, .negative (number_negative pos range ends)⟩
  · obtain ⟨n, rfl⟩ : ∃ n : ℕ, value = n := ⟨value.natAbs, by omega⟩
    obtain ⟨b, tail, front, digit⟩ := natText_eq_cons n
    have read := number_natText range ends
    rw [if_neg negative, Int.natAbs_natCast]
    rw [front, List.cons_append] at read ⊢
    exact written_eq_ok_iff.2
      ⟨_, _, skipBlank_of_isBlank (isBlank_of_isDigit digit) _, .number digit read⟩

theorem written_list (room : ℕ) (rest : Bytes) :
    written (room + 1) (0x5B :: rest) =
      (listOf (written room) rest).map fun read => (.arr read.1, read.2) := by
  change (listOf (written room) rest >>= fun read => Except.ok (Json.arr read.1, read.2)) = _
  cases listOf (written room) rest <;> rfl

theorem written_object (room : ℕ) (rest : Bytes) :
    written (room + 1) (0x7B :: rest) =
      (membersOf (addMember (written room)) [] rest).map fun read => (.obj read.1, read.2) := by
  change (membersOf (addMember (written room)) [] rest >>= fun read =>
    Except.ok (Json.obj read.1, read.2)) = _
  cases membersOf (addMember (written room)) [] rest <;> rfl

end HomeBus.Json
