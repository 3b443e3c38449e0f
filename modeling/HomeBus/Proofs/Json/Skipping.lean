import HomeBus.Proofs.Json.Following
import HomeBus.Proofs.Json.Numbers
import HomeBus.Proofs.Json.Strings

/-!
# Skipping

A skipped document is passed in rounds with a stack of open brackets. `Spans` says what is passed
without that stack, and every value that stands in a text takes itself off the stack again.

Results:
* `Spans.skipRounds`: the rounds that a value takes, and that there are enough of them.
* `spans_of_written`, `skipValue_of_written`: a document that can be read can also be skipped, and
  both stop at the same place.
-/

namespace HomeBus.Json.Reader

/-! ## Values without a stack -/

/-- What a skipped text goes on with: a value, or the inside of a bracket, where it matters whether
    an item came before. -/
inductive Part where
  | value
  | inside (bracket : Bracket) (first : Bool)

namespace Part

def state : Part → SkipState
  | .value => .value
  | .inside _ true => .opened
  | .inside _ false => .complete

/-- The brackets that are open inside a part. -/
def stack (outer : List Bracket) : Part → List Bracket
  | .value => outer
  | .inside bracket _ => bracket :: outer

/-- A value takes at least one byte more than half of its rounds. -/
def slack : Part → ℕ
  | .value => 1
  | .inside _ _ => 0

end Part

/-- The place behind the key where a value inside a bracket starts. -/
def behindKey (bracket : Bracket) (bytes : Bytes) : Except Malformed Bytes :=
  if bracket = .object then skipKey bytes else .ok bytes

/-- The place where a value inside a bracket starts. -/
def valueStart (bracket : Bracket) (first : Bool) (b : UInt8) (rest : Bytes) :
    Except Malformed Bytes :=
  if first then behindKey bracket (b :: rest)
  else if b = 0x2C then behindKey bracket rest
  else .error bracket.noEnd

/-- A part stands at the front of a text, as far as its form goes. -/
inductive Spans : Part → Bytes → Bytes → Prop where
  | scalar {bytes rest} (start : skipStart bytes = .ok (none, rest)) : Spans .value bytes rest
  | bracket {bracket bytes tail rest} (start : skipStart bytes = .ok (some bracket, tail))
      (inside : Spans (.inside bracket true) tail rest) : Spans .value bytes rest
  | close {bracket first bytes rest} (front : skipBlank bytes = bracket.close :: rest) :
      Spans (.inside bracket first) bytes rest
  | next {bracket first bytes b tail start left rest} (front : skipBlank bytes = b :: tail)
      (more : b ≠ bracket.close) (begin : valueStart bracket first b tail = .ok start)
      (head : Spans .value start left) (others : Spans (.inside bracket false) left rest) :
      Spans (.inside bracket first) bytes rest

variable {room rounds : ℕ} {first : Bool} {bytes rest tail left : Bytes} {b : UInt8} {part : Part}
  {bracket : Bracket}

/-! ## One round -/

theorem skipRounds_scalar (start : skipStart bytes = .ok (none, rest)) (outer : List Bracket) :
    skipRounds (rounds + 1) .value outer bytes = skipRounds rounds .complete outer rest := by
  rw [skipRounds, start]

theorem skipRounds_bracket (start : skipStart bytes = .ok (some bracket, rest))
    (outer : List Bracket) :
    skipRounds (rounds + 1) .value outer bytes =
      skipRounds rounds .opened (bracket :: outer) rest := by
  rw [skipRounds, start]

theorem skipRounds_close (front : skipBlank bytes = bracket.close :: rest) (first : Bool)
    (outer : List Bracket) :
    skipRounds (rounds + 1) (Part.inside bracket first).state (bracket :: outer) bytes =
      skipRounds rounds .complete outer rest := by
  cases first with
  | true =>
    rw [Part.state, skipRounds, front]
    simp only [↓reduceIte]
  | false =>
    have comma : bracket.close ≠ 0x2C := by cases bracket <;> decide
    rw [Part.state, skipRounds, front]
    simp only [if_neg comma, ↓reduceIte]

theorem skipRounds_next {start : Bytes} (front : skipBlank bytes = b :: tail)
    (more : b ≠ bracket.close) (begin : valueStart bracket first b tail = .ok start)
    (outer : List Bracket) :
    skipRounds (rounds + 1) (Part.inside bracket first).state (bracket :: outer) bytes =
      skipRounds rounds .value (bracket :: outer) start := by
  unfold valueStart behindKey at begin
  cases first with
  | true =>
    rw [Part.state, skipRounds, front]
    simp only [if_neg more]
    rw [if_pos rfl] at begin
    split_ifs at begin ⊢
    · rw [begin]
    · cases begin
      rfl
  | false =>
    rw [Part.state, skipRounds, front]
    simp only
    rw [if_neg Bool.false_ne_true] at begin
    split_ifs at begin ⊢
    · rw [begin]
    · cases begin
      rfl

/-! ## Lengths -/

theorem length_skipBlank_le (bytes : Bytes) : (skipBlank bytes).length ≤ bytes.length := by
  induction bytes with
  | nil => exact Nat.le_refl _
  | cons b bytes ih =>
    rw [skipBlank]
    split_ifs
    · exact Nat.le_succ_of_le ih
    · exact Nat.le_refl _

theorem length_lt_of_skipBlank (front : skipBlank bytes = b :: rest) :
    rest.length < bytes.length := by
  have le := length_skipBlank_le bytes
  rw [front] at le
  exact le

theorem length_le_of_keyword {word : Bytes} (h : keyword word bytes = .ok rest) :
    rest.length ≤ bytes.length := by
  induction word generalizing bytes with
  | nil =>
    cases h
    exact Nat.le_refl _
  | cons expected more ih =>
    cases bytes with
    | nil => cases h
    | cons b bytes =>
      rw [keyword] at h
      split_ifs at h
      exact Nat.le_succ_of_le (ih h)

theorem map_eq_ok_iff {α : Type} {step : Except Malformed Bytes} {f : Bytes → α} {a : α} :
    step.map f = .ok a ↔ ∃ rest, step = .ok rest ∧ f rest = a := by
  cases step <;> simp [Except.map]

theorem length_lt_of_skipStart {opened : Option Bracket}
    (h : skipStart bytes = .ok (opened, rest)) : rest.length < bytes.length := by
  unfold skipStart at h
  cases front : skipBlank bytes with
  | nil =>
    rw [front] at h
    cases h
  | cons b tail =>
    refine Nat.lt_of_le_of_lt ?_ (length_lt_of_skipBlank front)
    rw [front] at h
    simp only at h
    split_ifs at h
    iterate 3
      · obtain ⟨_, word, ⟨⟩⟩ := map_eq_ok_iff.1 h
        exact length_le_of_keyword word
    · obtain ⟨_, number, ⟨⟩⟩ := map_eq_ok_iff.1 h
      exact Nat.le_of_lt (length_lt_of_skipNumber number)
    · obtain ⟨_, number, ⟨⟩⟩ := map_eq_ok_iff.1 h
      exact Nat.le_of_lt_succ (length_lt_of_skipNumber number)
    · obtain ⟨_, text, ⟨⟩⟩ := map_eq_ok_iff.1 h
      exact Nat.le_of_lt (length_lt_of_skipString text)
    · cases h
      exact Nat.le_refl _
    · cases h
      exact Nat.le_refl _

theorem skipKey_eq_ok_iff {start : Bytes} :
    skipKey bytes = .ok start ↔ ∃ key behind, skipBlank bytes = 0x22 :: key ∧
      skipString key = .ok behind ∧ skipBlank behind = 0x3A :: start := by
  unfold skipKey
  constructor
  · intro h
    cases front : skipBlank bytes with
    | nil =>
      rw [front] at h
      cases h
    | cons b key =>
      rw [front] at h
      simp only at h
      split_ifs at h with quote
      subst quote
      cases passed : skipString key with
      | error fault =>
        rw [passed] at h
        cases h
      | ok behind =>
        rw [passed] at h
        simp only at h
        cases mark : skipBlank behind with
        | nil =>
          rw [mark] at h
          cases h
        | cons c value =>
          rw [mark] at h
          simp only at h
          split_ifs at h with colon
          cases h
          exact ⟨key, behind, rfl, passed, colon ▸ mark⟩
  · rintro ⟨key, behind, front, passed, mark⟩
    rw [front]
    simp only [↓reduceIte, passed, mark]

theorem length_le_of_behindKey {start : Bytes} (h : behindKey bracket bytes = .ok start) :
    start.length ≤ bytes.length := by
  unfold behindKey at h
  split_ifs at h
  · obtain ⟨key, behind, front, passed, mark⟩ := skipKey_eq_ok_iff.1 h
    have := length_lt_of_skipBlank front
    have := length_lt_of_skipString passed
    have := length_lt_of_skipBlank mark
    omega
  · cases h
    exact Nat.le_refl _

theorem length_le_of_valueStart {start : Bytes} (front : skipBlank bytes = b :: tail)
    (h : valueStart bracket first b tail = .ok start) : start.length ≤ bytes.length := by
  have shorter := length_lt_of_skipBlank front
  unfold valueStart at h
  split_ifs at h
  · exact Nat.le_trans (length_le_of_behindKey h) shorter
  · exact Nat.le_trans (length_le_of_behindKey h) (Nat.le_of_lt shorter)

/-! ## All rounds -/

/-- Passing a part takes it off the stack, in not more rounds than twice the bytes that it has. -/
theorem Spans.skipRounds (spans : Spans part bytes rest) :
    ∃ cost, cost + 2 * rest.length + part.slack ≤ 2 * bytes.length ∧ ∀ rounds outer,
      Reader.skipRounds (rounds + cost) part.state (part.stack outer) bytes =
        Reader.skipRounds rounds .complete outer rest := by
  induction spans with
  | scalar start =>
    have := length_lt_of_skipStart start
    refine ⟨1, by rw [Part.slack]; omega, fun rounds outer => skipRounds_scalar start outer⟩
  | bracket start inside ih =>
    obtain ⟨cost, enough, run⟩ := ih
    have := length_lt_of_skipStart start
    refine ⟨cost + 1, by simp only [Part.slack] at enough ⊢; omega, fun rounds outer => ?_⟩
    rw [← Nat.add_assoc, Part.state, Part.stack, skipRounds_bracket start]
    exact run rounds outer
  | close front =>
    have := length_lt_of_skipBlank front
    refine ⟨1, by rw [Part.slack]; omega, fun rounds outer => skipRounds_close front _ outer⟩
  | next front more begin head others ih ih' =>
    obtain ⟨cost, enough, run⟩ := ih
    obtain ⟨cost', enough', run'⟩ := ih'
    have := length_le_of_valueStart front begin
    simp only [Part.slack] at enough enough' ⊢
    refine ⟨cost' + cost + 1, by omega, fun rounds outer => ?_⟩
    rw [← Nat.add_assoc, Part.stack, skipRounds_next front more begin, ← Nat.add_assoc]
    exact (run _ _).trans (run' rounds outer)

/-- What has the form of a value is skipped. -/
theorem skipValue_of_spans (spans : Spans .value bytes rest) :
    skipValue bytes = .ok ((), rest) := by
  obtain ⟨cost, enough, run⟩ := spans.skipRounds
  obtain ⟨spare, split⟩ : ∃ spare, 2 * bytes.length + 2 = spare + 1 + cost :=
    ⟨2 * bytes.length + 1 - cost, by rw [Part.slack] at enough; omega⟩
  have all := run (spare + 1) []
  rw [Part.state, Part.stack, ← split] at all
  unfold skipValue
  rw [all, Reader.skipRounds]
  rfl

/-! ## Documents -/

theorem written_congr {bytes' : Bytes} (h : skipBlank bytes = skipBlank bytes') :
    written room bytes = written room bytes' := by
  unfold written
  rw [h]

theorem colon_eq_ok_iff {start : Bytes} :
    colon bytes = .ok start ↔ skipBlank bytes = 0x3A :: start := by
  unfold colon
  cases skipBlank bytes with
  | nil => exact iff_of_false nofun nofun
  | cons b tail =>
    simp only
    split_ifs with mark
    · simp [mark]
    · simp [mark, malformed]

/-- The comma before an item and the blanks behind it. -/
theorem skipBlank_of_listComma {start : Bytes} (h : listComma b tail = .ok start) :
    b = 0x2C ∧ skipBlank tail = start ∧ skipBlank start = start := by
  unfold listComma at h
  split_ifs at h with comma
  · cases front : skipBlank tail with
    | nil =>
      rw [front] at h
      cases h
    | cons c rest =>
      rw [front] at h
      simp only at h
      split_ifs at h
      · cases h
      · cases h
        exact ⟨comma, rfl, skipBlank_of_skipBlank front⟩
  · cases h

/-- The comma before a member and the quotation mark of its key. -/
theorem skipBlank_of_memberComma {start : Bytes} (h : memberComma b tail = .ok start) :
    b = 0x2C ∧ skipBlank tail = 0x22 :: start := by
  unfold memberComma at h
  split_ifs at h with comma
  · cases front : skipBlank tail with
    | nil =>
      rw [front] at h
      cases h
    | cons c rest =>
      rw [front] at h
      simp only at h
      split_ifs at h with quote brace
      · cases h
        exact ⟨comma, quote ▸ rfl⟩
      · cases h
      · cases h
  · cases h

theorem ItemsAt.spans {items : List Json}
    (list : ItemsAt (written room) rounds first bytes items rest)
    (h : ∀ bytes w rest, written room bytes = .ok (w, rest) → Spans .value bytes rest) :
    Spans (.inside .list first) bytes rest := by
  induction list with
  | close front => exact .close front
  | @item rounds first bytes b tail start w left items rest front more begin head others ih =>
    cases first with
    | true =>
      cases begin
      exact .next front more rfl (h _ _ _ head) ih
    | false =>
      obtain ⟨rfl, passed, solid⟩ := skipBlank_of_listComma begin
      rw [written_congr (solid.trans passed.symm)] at head
      exact .next front more rfl (h _ _ _ head) ih

theorem MembersAt.spans {members : List (String × Json)}
    (object : MembersAt room rounds first bytes members rest)
    (h : ∀ bytes w rest, written room bytes = .ok (w, rest) → Spans .value bytes rest) :
    Spans (.inside .object first) bytes rest := by
  induction object with
  | close front => exact .close front
  | @member rounds first bytes b tail start key behind value w left members rest front more begin
      name colon head others ih =>
    have passed := skipString_of_string name
    have mark := colon_eq_ok_iff.1 colon
    refine .next front more ?_ (h _ _ _ head) ih
    cases first with
    | true =>
      obtain ⟨rfl, rfl⟩ := keyStart_true_eq_ok_iff.1 begin
      exact skipKey_eq_ok_iff.2 ⟨_, _, skipBlank_of_skipBlank front, passed, mark⟩
    | false =>
      obtain ⟨rfl, quote⟩ := skipBlank_of_memberComma begin
      exact skipKey_eq_ok_iff.2 ⟨_, _, quote, passed, mark⟩

/-- A document that is read has the form of a value. -/
theorem spans_of_written {w : Json} (read : written room bytes = .ok (w, rest)) :
    Spans .value bytes rest := by
  induction room using Nat.strongRecOn generalizing bytes w rest with
  | _ room ih =>
    obtain ⟨b, tail, front, starts⟩ := written_eq_ok_iff.1 read
    have start : ∀ opened left, skipStart (b :: tail) = .ok (opened, left) →
        skipStart bytes = .ok (opened, left) := by
      intro opened left start
      rwa [skipStart, skipBlank_of_skipBlank front, ← front, ← skipStart] at start
    cases starts with
    | null word | true word | false word =>
      exact .scalar (start _ _ (map_eq_ok_iff.2 ⟨_, word, rfl⟩))
    | negative read =>
      exact .scalar (start _ _ (map_eq_ok_iff.2 ⟨_, skipNumber_of_number read, rfl⟩))
    | text read =>
      exact .scalar (start _ _ (map_eq_ok_iff.2 ⟨_, skipString_of_string read, rfl⟩))
    | number digit read =>
      refine .scalar (start _ _ ?_)
      rw [skipStart, skipBlank_of_skipBlank front]
      simp only
      rw [if_neg (ne_of_isDigit digit (by decide)), if_neg (ne_of_isDigit digit (by decide)),
        if_neg (ne_of_isDigit digit (by decide)), if_neg (ne_of_isDigit digit (by decide)),
        if_pos digit]
      exact map_eq_ok_iff.2 ⟨_, skipNumber_of_number read, rfl⟩
    | list read =>
      refine .bracket (start _ _ rfl) ((itemsAt_of_listItems read).spans fun _ _ _ => ?_)
      exact ih _ (Nat.lt_succ_self _)
    | object read =>
      obtain ⟨added, -, object⟩ := membersAt_of_foldMembers read
      refine .bracket (start _ _ rfl) (object.spans fun _ _ _ => ?_)
      exact ih _ (Nat.lt_succ_self _)

/-- A document that can be read can be skipped. -/
theorem skipValue_of_written {w : Json} (read : written room bytes = .ok (w, rest)) :
    skipValue bytes = .ok ((), rest) := skipValue_of_spans (spans_of_written read)

end HomeBus.Json.Reader
