import HomeBus.Json.Reader
import HomeBus.Proofs.Json.Tree
import HomeBus.Proofs.Outcome

/-!
# Documents as they are written

`Reader.written` reads a document with all members of its objects in the order in which they stand
in the text, repeated keys included. It is what conditions on a text are stated on: what
`Reader.value` reads is the same tree, collapsed.

Results:
* `written_eq_ok_iff`: what stands at the front of a text that holds a document.
* `value_eq_written`, `parse_eq_ok_iff`: a document is read as the collapsed tree of what is
  written.
* `depth_le_of_written`: it does not nest deeper than there is room.
-/

namespace HomeBus.Json

namespace Reader

/-! ## Items and members one by one -/

section

variable {α β σ τ : Type}

/-- The place where an item starts. -/
def itemStart (first : Bool) (b : UInt8) (rest : Bytes) : Except Error Bytes :=
  if first then .ok (b :: rest) else listComma b rest

/-- The place behind the quotation mark where a key starts. -/
def keyStart (first : Bool) (b : UInt8) (rest : Bytes) : Except Error Bytes :=
  if first then firstKey b rest else memberComma b rest

theorem listItems_succ (item : Reader α) (first : Bool) (rounds : ℕ) (bytes : Bytes) :
    listItems item first (rounds + 1) bytes =
      match skipBlank bytes with
      | [] => malformed .endInList
      | b :: rest =>
        if b = 0x5D then .ok ([], rest)
        else itemStart first b rest >>= fun start => item start >>= fun head =>
          listItems item false rounds head.2 >>= fun tail => .ok (head.1 :: tail.1, tail.2) := by
  rw [listItems]
  cases skipBlank bytes with
  | nil => rfl
  | cons b rest => cases first <;> rfl

theorem foldMembers_succ (member : σ → String → Reader σ) (first : Bool) (rounds : ℕ) (state : σ)
    (bytes : Bytes) :
    foldMembers member first (rounds + 1) state bytes =
      match skipBlank bytes with
      | [] => malformed .endInObject
      | b :: rest =>
        if b = 0x7D then .ok (state, rest)
        else keyStart first b rest >>= fun start => formed (string start) >>= fun key =>
          member state key.1 key.2 >>= fun next =>
            foldMembers member false rounds next.1 next.2 := by
  rw [foldMembers]
  cases skipBlank bytes with
  | nil => rfl
  | cons b rest => cases first <;> rfl

theorem formed_bind_eq_ok_iff {step : Except Malformed α} {next : α → Except Error β}
    {b : β} : (formed step >>= next) = .ok b ↔ ∃ a, step = .ok a ∧ next a = .ok b := by
  rw [Outcome.bind_eq_ok_iff]
  cases step <;> simp [formed, malformed]

/-- A text that holds the items of an array up to its closing bracket, read in so many rounds: the
    items and the rest. -/
inductive ItemsAt (item : Reader α) : ℕ → Bool → Bytes → List α → Bytes → Prop where
  | close {rounds first bytes rest} (front : skipBlank bytes = 0x5D :: rest) :
      ItemsAt item (rounds + 1) first bytes [] rest
  | item {rounds first bytes b tail start a left items rest} (front : skipBlank bytes = b :: tail)
      (more : b ≠ 0x5D) (begin : itemStart first b tail = .ok start)
      (head : item start = .ok (a, left)) (others : ItemsAt item rounds false left items rest) :
      ItemsAt item (rounds + 1) first bytes (a :: items) rest

theorem itemsAt_of_listItems {item : Reader α} {first : Bool} {rounds : ℕ} {bytes rest : Bytes}
    {items : List α} (read : listItems item first rounds bytes = .ok (items, rest)) :
    ItemsAt item rounds first bytes items rest := by
  induction rounds generalizing first bytes items with
  | zero => cases read
  | succ rounds ih =>
    rw [listItems_succ] at read
    cases front : skipBlank bytes with
    | nil =>
      rw [front] at read
      cases read
    | cons b tail =>
      rw [front] at read
      simp only at read
      split_ifs at read with close
      · subst close
        cases read
        exact .close front
      · obtain ⟨start, begin, read⟩ := Outcome.bind_eq_ok_iff.1 read
        obtain ⟨⟨a, left⟩, head, read⟩ := Outcome.bind_eq_ok_iff.1 read
        obtain ⟨⟨items, end_⟩, others, ⟨⟩⟩ := Outcome.bind_eq_ok_iff.1 read
        exact .item front close begin head (ih others)

/-- What a fold over members found first: the closing brace, or a member. -/
theorem foldMembers_cases {member : σ → String → Reader σ} {first : Bool} {rounds : ℕ}
    {state final : σ} {bytes rest : Bytes}
    (read : foldMembers member first (rounds + 1) state bytes = .ok (final, rest)) :
    (skipBlank bytes = 0x7D :: rest ∧ state = final) ∨
      ∃ b tail start key behind next left, skipBlank bytes = b :: tail ∧ b ≠ 0x7D ∧
        keyStart first b tail = .ok start ∧ string start = .ok (key, behind) ∧
        member state key behind = .ok (next, left) ∧
        foldMembers member false rounds next left = .ok (final, rest) := by
  rw [foldMembers_succ] at read
  cases front : skipBlank bytes with
  | nil =>
    rw [front] at read
    cases read
  | cons b tail =>
    rw [front] at read
    simp only at read
    split_ifs at read with close
    · subst close
      cases read
      exact .inl ⟨rfl, rfl⟩
    · obtain ⟨start, begin, read⟩ := Outcome.bind_eq_ok_iff.1 read
      obtain ⟨⟨key, behind⟩, name, read⟩ := formed_bind_eq_ok_iff.1 read
      obtain ⟨⟨next, left⟩, here, others⟩ := Outcome.bind_eq_ok_iff.1 read
      exact .inr ⟨b, tail, start, key, behind, next, left, rfl, close, begin, name, here, others⟩

/-- Reading items by a function of what another reader reads. -/
theorem listItems_map {item : Reader α} {image : Reader β} (f : α → β)
    (h : ∀ bytes, image bytes = (item bytes).map fun read => (f read.1, read.2)) (first : Bool)
    (rounds : ℕ) (bytes : Bytes) :
    listItems image first rounds bytes =
      (listItems item first rounds bytes).map fun read => (read.1.map f, read.2) := by
  induction rounds generalizing first bytes with
  | zero => rfl
  | succ rounds ih =>
    rw [listItems_succ, listItems_succ]
    cases skipBlank bytes with
    | nil => rfl
    | cons b rest =>
      simp only
      split_ifs
      · rfl
      · cases itemStart first b rest with
        | error e => rfl
        | ok start =>
          simp only [bind, Except.bind, h]
          cases item start with
          | error e => rfl
          | ok head =>
            simp only [Except.map, ih]
            cases listItems item false rounds head.2 <;> rfl

/-- Folding over members on the images of states. -/
theorem foldMembers_map {member : σ → String → Reader σ} {image : τ → String → Reader τ} (f : σ → τ)
    (h : ∀ state key bytes,
      image (f state) key bytes = (member state key bytes).map fun read => (f read.1, read.2))
    (first : Bool) (rounds : ℕ) (state : σ) (bytes : Bytes) :
    foldMembers image first rounds (f state) bytes =
      (foldMembers member first rounds state bytes).map fun read => (f read.1, read.2) := by
  induction rounds generalizing first state bytes with
  | zero => rfl
  | succ rounds ih =>
    rw [foldMembers_succ, foldMembers_succ]
    cases skipBlank bytes with
    | nil => rfl
    | cons b rest =>
      simp only
      split_ifs
      · rfl
      · cases keyStart first b rest with
        | error e => rfl
        | ok start =>
          simp only [bind, Except.bind]
          cases formed (string start) with
          | error e => rfl
          | ok key =>
            simp only [h]
            cases member state key.1 key.2 with
            | error e => rfl
            | ok next => exact ih false next.1 next.2

end

/-! ## Any document -/

/-- Adds a member behind those before it, whatever its key. -/
def addMember (value : Reader Json) (members : List (String × Json)) (key : String) :
    Reader (List (String × Json)) := fun bytes => do
  let rest ← colon bytes
  let (value, rest) ← value rest
  return (members ++ [(key, value)], rest)

/-- A document with at most `room` arrays and objects one inside the other, as it is written. -/
def written (room : ℕ) : Reader Json := fun bytes =>
  match skipBlank bytes with
  | [] => malformed .endInValue
  | b :: rest =>
    if b = 0x6E then constant nullTail .null rest
    else if b = 0x74 then constant trueTail (.bool true) rest
    else if b = 0x66 then constant falseTail (.bool false) rest
    else if b = 0x2D then do
      let (n, rest) ← formed (number true rest)
      return (.num n, rest)
    else if isDigit b then do
      let (n, rest) ← formed (number false (b :: rest))
      return (.num n, rest)
    else if b = 0x22 then do
      let (s, rest) ← formed (string rest)
      return (.str s, rest)
    else if b = 0x5B then
      match room with
      | 0 => malformed .tooDeep
      | room + 1 => do
        let (items, rest) ← listOf (written room) rest
        return (.arr items, rest)
    else if b = 0x7B then
      match room with
      | 0 => malformed .tooDeep
      | room + 1 => do
        let (members, rest) ← membersOf (addMember (written room)) [] rest
        return (.obj members, rest)
    else malformed .noValue

/-- What stands at the front of a text that holds a document: its first byte, what follows, the
    document and the rest. -/
inductive Starts : ℕ → UInt8 → Bytes → Json → Bytes → Prop where
  | null {room tail rest} (word : keyword nullTail tail = .ok rest) :
      Starts room 0x6E tail .null rest
  | true {room tail rest} (word : keyword trueTail tail = .ok rest) :
      Starts room 0x74 tail (.bool true) rest
  | false {room tail rest} (word : keyword falseTail tail = .ok rest) :
      Starts room 0x66 tail (.bool false) rest
  | negative {room tail n rest} (read : number true tail = .ok (n, rest)) :
      Starts room 0x2D tail (.num n) rest
  | number {room b tail n rest} (digit : isDigit b = true)
      (read : number false (b :: tail) = .ok (n, rest)) : Starts room b tail (.num n) rest
  | text {room tail s rest} (read : string tail = .ok (s, rest)) :
      Starts room 0x22 tail (.str s) rest
  | list {room tail items rest} (read : listOf (written room) tail = .ok (items, rest)) :
      Starts (room + 1) 0x5B tail (.arr items) rest
  | object {room tail members rest}
      (read : membersOf (addMember (written room)) [] tail = .ok (members, rest)) :
      Starts (room + 1) 0x7B tail (.obj members) rest

/-- A digit is none of the other bytes. -/
theorem ne_of_isDigit {b c : UInt8} (digit : isDigit b = Bool.true)
    (other : isDigit c = Bool.false) : b ≠ c := by
  rintro rfl
  rw [digit] at other
  cases other

/-- A text holds a document exactly when one stands at its front. -/
theorem written_eq_ok_iff {room : ℕ} {bytes rest : Bytes} {w : Json} :
    written room bytes = .ok (w, rest) ↔
      ∃ b tail, skipBlank bytes = b :: tail ∧ Starts room b tail w rest := by
  constructor
  · intro h
    unfold written at h
    cases front : skipBlank bytes with
    | nil =>
      rw [front] at h
      cases h
    | cons b tail =>
      rw [front] at h
      refine ⟨b, tail, rfl, ?_⟩
      simp only at h
      split_ifs at h with null true false minus digit quote bracket brace
      · subst null
        obtain ⟨_, word, ⟨⟩⟩ := formed_bind_eq_ok_iff.1 h
        exact .null word
      · subst true
        obtain ⟨_, word, ⟨⟩⟩ := formed_bind_eq_ok_iff.1 h
        exact .true word
      · subst false
        obtain ⟨_, word, ⟨⟩⟩ := formed_bind_eq_ok_iff.1 h
        exact .false word
      · subst minus
        obtain ⟨⟨n, left⟩, read, ⟨⟩⟩ := formed_bind_eq_ok_iff.1 h
        exact .negative read
      · obtain ⟨⟨n, left⟩, read, ⟨⟩⟩ := formed_bind_eq_ok_iff.1 h
        exact .number digit read
      · subst quote
        obtain ⟨⟨s, left⟩, read, ⟨⟩⟩ := formed_bind_eq_ok_iff.1 h
        exact .text read
      · subst bracket
        cases room with
        | zero => cases h
        | succ room =>
          obtain ⟨⟨items, left⟩, read, ⟨⟩⟩ := Outcome.bind_eq_ok_iff.1 h
          exact .list read
      · subst brace
        cases room with
        | zero => cases h
        | succ room =>
          obtain ⟨⟨members, left⟩, read, ⟨⟩⟩ := Outcome.bind_eq_ok_iff.1 h
          exact .object read
      · cases h
  · rintro ⟨b, tail, front, starts⟩
    unfold written
    rw [front]
    cases starts with
    | null word => exact formed_bind_eq_ok_iff.2 ⟨_, word, rfl⟩
    | true word => exact formed_bind_eq_ok_iff.2 ⟨_, word, rfl⟩
    | false word => exact formed_bind_eq_ok_iff.2 ⟨_, word, rfl⟩
    | negative read => exact formed_bind_eq_ok_iff.2 ⟨_, read, rfl⟩
    | number digit read =>
      simp only
      rw [if_neg (ne_of_isDigit digit (by decide)), if_neg (ne_of_isDigit digit (by decide)),
        if_neg (ne_of_isDigit digit (by decide)), if_neg (ne_of_isDigit digit (by decide)),
        if_pos digit]
      exact formed_bind_eq_ok_iff.2 ⟨_, read, rfl⟩
    | text read => exact formed_bind_eq_ok_iff.2 ⟨_, read, rfl⟩
    | list read => exact Outcome.bind_eq_ok_iff.2 ⟨_, read, rfl⟩
    | object read => exact Outcome.bind_eq_ok_iff.2 ⟨_, read, rfl⟩

/-! ## What is read of it -/

/-- The members of an object that was read are those that are written, put in order one by one. -/
theorem putMember_eq_addMember {value written : Reader Json}
    (h : ∀ bytes, value bytes = (written bytes).map fun read => (read.1.collapse, read.2))
    (members : List (String × Json)) (key : String) (bytes : Bytes) :
    putMember value (Entries.ofList (collapseMembers members)) key bytes =
      (addMember written members key bytes).map fun read =>
        (Entries.ofList (collapseMembers read.1), read.2) := by
  unfold putMember addMember
  cases colon bytes with
  | error e => rfl
  | ok start =>
    simp only [bind, Except.bind, h]
    cases written start with
    | error e => rfl
    | ok read =>
      simp only [pure, Except.pure, Except.map, collapseMembers_append]
      rw [Entries.ofList, Entries.ofList, List.foldl_append]
      rfl

theorem constant_collapse {v : Json} (h : v.collapse = v) (word bytes : Bytes) :
    constant word v bytes =
      (constant word v bytes).map fun read => (read.1.collapse, read.2) := by
  unfold constant
  cases keyword word bytes with
  | error e => rfl
  | ok rest => exact congrArg (fun v => Except.ok (v, rest)) h.symm

/-- A document is read as the collapsed tree of what is written. -/
theorem value_eq_written (room : ℕ) (bytes : Bytes) :
    value room bytes = (written room bytes).map fun read => (read.1.collapse, read.2) := by
  induction room using Nat.strongRecOn generalizing bytes with
  | _ room ih =>
    unfold value written
    cases skipBlank bytes with
    | nil => rfl
    | cons b tail =>
      simp only
      split_ifs
      · exact constant_collapse rfl ..
      · exact constant_collapse rfl ..
      · exact constant_collapse rfl ..
      · cases number true tail <;> rfl
      · cases number false (b :: tail) <;> rfl
      · cases string tail <;> rfl
      · cases room with
        | zero => rfl
        | succ inner =>
          simp only
          rw [listOf, listItems_map collapse (ih inner (Nat.lt_succ_self _)), ← listOf]
          cases listOf (written inner) tail with
          | error e => rfl
          | ok read =>
            refine congrArg (fun items => Except.ok (Json.arr items, read.2)) ?_
            exact (collapseItems_eq_map read.1).symm
      · cases room with
        | zero => rfl
        | succ inner =>
          have folded := foldMembers_map (fun members => Entries.ofList (collapseMembers members))
            (putMember_eq_addMember (ih inner (Nat.lt_succ_self _))) true (tail.length + 1) [] tail
          simp only
          rw [membersOf, membersOf]
          rw [show Entries.ofList (collapseMembers []) = [] from rfl] at folded
          rw [folded]
          cases foldMembers (addMember (written inner)) true (tail.length + 1) [] tail <;> rfl
      · rfl

/-- Only blanks may follow what is read of a whole text. -/
theorem document_eq_ok_iff {α : Type} {reader : Reader α} {bytes : Bytes} {a : α} :
    document reader bytes = .ok a ↔ ∃ rest, reader bytes = .ok (a, rest) ∧ skipBlank rest = [] := by
  unfold document
  constructor
  · intro h
    obtain ⟨⟨a', rest⟩, read, h⟩ := Outcome.bind_eq_ok_iff.1 h
    simp only at h
    cases front : skipBlank rest with
    | nil =>
      rw [front] at h
      cases h
      exact ⟨rest, read, front⟩
    | cons b tail =>
      rw [front] at h
      cases h
  · rintro ⟨rest, read, front⟩
    rw [read]
    simp only [bind, Except.bind, front]
    rfl

/-- A text holds the collapsed tree of the document that is written in it. -/
theorem parse_eq_ok_iff {bytes : Bytes} {v : Json} :
    parse bytes = .ok v ↔ ∃ w, document (written maxDepth) bytes = .ok w ∧ w.collapse = v := by
  simp only [parse, document_eq_ok_iff, value_eq_written]
  constructor
  · rintro ⟨rest, read, front⟩
    cases found : written maxDepth bytes with
    | error e =>
      rw [found] at read
      cases read
    | ok there =>
      rw [found] at read
      cases read
      exact ⟨there.1, ⟨there.2, rfl, front⟩, rfl⟩
  · rintro ⟨w, ⟨rest, read, front⟩, rfl⟩
    exact ⟨rest, by rw [read]; rfl, front⟩

/-! ## How deep it nests -/

theorem ItemsAt.forall_mem {α : Type} {item : Reader α} {P : α → Prop}
    (h : ∀ bytes a rest, item bytes = .ok (a, rest) → P a) {first : Bool} {rounds : ℕ}
    {bytes rest : Bytes} {items : List α} (list : ItemsAt item rounds first bytes items rest) :
    ∀ a ∈ items, P a := by
  induction list with
  | close front => exact List.forall_mem_nil _
  | item front more begin head others ih => exact List.forall_mem_cons.2 ⟨h _ _ _ head, ih⟩

/-- What holds of the state at first and is kept by every member holds at the end. -/
theorem foldMembers_keeps {σ : Type} {member : σ → String → Reader σ} {P : σ → Prop}
    (h : ∀ state key bytes next rest, P state → member state key bytes = .ok (next, rest) → P next)
    {first : Bool} {rounds : ℕ} {state final : σ} {bytes rest : Bytes} (outset : P state)
    (read : foldMembers member first rounds state bytes = .ok (final, rest)) : P final := by
  induction rounds generalizing first state bytes with
  | zero => cases read
  | succ rounds ih =>
    obtain ⟨-, rfl⟩ | ⟨_, _, _, key, behind, next, left, -, -, -, -, here, others⟩ :=
      foldMembers_cases read
    · exact outset
    · exact ih (h _ _ _ _ _ outset here) others

/-- A document does not nest deeper than there is room. -/
theorem depth_le_of_written {room : ℕ} {bytes rest : Bytes} {w : Json}
    (read : written room bytes = .ok (w, rest)) : w.depth ≤ room := by
  induction room generalizing bytes w rest with
  | zero =>
    obtain ⟨b, tail, -, starts⟩ := written_eq_ok_iff.1 read
    cases starts <;> exact Nat.le_refl _
  | succ room ih =>
    obtain ⟨b, tail, -, starts⟩ := written_eq_ok_iff.1 read
    cases starts with
    | list read =>
      rw [depth]
      refine Nat.succ_le_succ (itemsDepth_le_iff.2 ?_)
      exact (itemsAt_of_listItems read).forall_mem fun bytes item rest read => ih read
    | object read =>
      rw [depth]
      refine Nat.succ_le_succ (membersDepth_le_iff.2 ?_)
      have kept : ∀ (members : List (String × Json)) key bytes next rest,
          (∀ member ∈ members, member.2.depth ≤ room) →
          addMember (written room) members key bytes = .ok (next, rest) →
          ∀ member ∈ next, member.2.depth ≤ room := by
        intro members key bytes next rest inside read
        obtain ⟨start, -, read⟩ := Outcome.bind_eq_ok_iff.1 read
        obtain ⟨⟨v, left⟩, here, ⟨⟩⟩ := Outcome.bind_eq_ok_iff.1 read
        rw [List.forall_mem_append]
        exact ⟨inside, List.forall_mem_singleton.2 (ih here)⟩
      exact foldMembers_keeps kept (List.forall_mem_nil _) read
    | _ => exact Nat.zero_le _

/-- A document that was read is canonical and does not nest deeper than there was room. -/
theorem canonical_of_value {room : ℕ} {bytes rest : Bytes} {v : Json}
    (read : value room bytes = .ok (v, rest)) : v.Canonical ∧ v.depth ≤ room := by
  rw [value_eq_written] at read
  cases there : written room bytes with
  | error e =>
    rw [there] at read
    cases read
  | ok found =>
    rw [there] at read
    cases read
    exact ⟨canonical_collapse _,
      Nat.le_trans (depth_collapse_le _)
        (depth_le_of_written (show _ = Except.ok (found.1, found.2) from there))⟩

end Reader

end HomeBus.Json
