import HomeBus.Proofs.Json.Printed
import HomeBus.Proofs.Json.Tokens

/-!
# The form of JSON texts

`Form` is the grammar of JSON on bytes, with no limit to how deep arrays and objects nest, how large
numbers are or what strings denote. It is what is skipped, no more and no less.

Results:
* `Form.spans`, `skipValue_append`: whatever has the form of a value is skipped, whatever follows.
* `spans_of_skipValue`, `exists_form_of_spans`: what is skipped has the form of a value.
-/

namespace HomeBus.Json

open Reader (Part Bracket Spans)

/-! ## The grammar -/

def Reader.Bracket.opening : Bracket → UInt8
  | .list => 0x5B
  | .object => 0x7B

/-- What stands between a bracket or a comma and the value behind it: blanks, and in an object the
    key and a colon. -/
inductive Label : Bracket → Bytes → Prop where
  | item {lead} (blank : Blank lead) : Label .list lead
  | member {lead key gap pad} (before : Blank lead) (content : Content key) (behind : Blank gap)
      (blank : Blank pad) : Label .object (lead ++ 0x22 :: (key ++ 0x22 :: (gap ++ 0x3A :: pad)))

/-- What stands before the label of a value: nothing if the value is the first one of its array or
    object, else blanks and a comma. -/
inductive Separator : Bool → Bytes → Prop where
  | first : Separator true []
  | comma {lead} (blank : Blank lead) : Separator false (lead ++ [0x2C])

/-- A text has the form of a value, or of the inside of an array or object with its closing
    bracket. -/
inductive Form : Part → Bytes → Prop where
  | null : Form .value (0x6E :: nullTail)
  | true : Form .value (0x74 :: trueTail)
  | false : Form .value (0x66 :: falseTail)
  | number {m} (magnitude : Magnitude m) : Form .value m
  | negative {m} (magnitude : Magnitude m) : Form .value (0x2D :: m)
  | string {c} (content : Content c) : Form .value (0x22 :: (c ++ [0x22]))
  | bracket {bracket w} (inside : Form (.inside bracket .true) w) :
      Form .value (bracket.opening :: w)
  | close {bracket first lead} (blank : Blank lead) :
      Form (.inside bracket first) (lead ++ [bracket.close])
  | next {bracket first separator label v w} (separated : Separator first separator)
      (labelled : Label bracket label) (value : Form .value v)
      (others : Form (.inside bracket .false) w) :
      Form (.inside bracket first) (separator ++ (label ++ (v ++ w)))

variable {bytes rest tail left v w : Bytes} {b : UInt8} {bracket : Bracket} {first : Bool}
  {part : Part}

/-! ## Skipping what has a form -/

theorem keyword_append (word rest : Bytes) : keyword word (word ++ rest) = .ok rest := by
  induction word with
  | nil => rfl
  | cons b word ih => rw [List.cons_append, keyword, if_pos rfl, ih]

theorem eq_append_of_keyword {word : Bytes} (h : keyword word bytes = .ok rest) :
    bytes = word ++ rest := by
  induction word generalizing bytes with
  | nil =>
    cases h
    rfl
  | cons expected word ih =>
    cases bytes with
    | nil => cases h
    | cons b bytes =>
      rw [keyword] at h
      split_ifs at h with same
      rw [same, ih h, List.cons_append]

theorem Magnitude.eq_cons (magnitude : Magnitude w) :
    ∃ b tail, w = b :: tail ∧ isDigit b = true := by
  obtain @⟨_, _, _, whole, -, -⟩ := magnitude
  cases whole with
  | zero => exact ⟨_, _, rfl, by decide⟩
  | digits digit => exact ⟨_, _, rfl, digit⟩

/-- The first byte of a value: no blank, no closing bracket and no comma. -/
theorem Form.eq_cons (form : Form .value v) :
    ∃ b tail, v = b :: tail ∧ isBlank b = Bool.false ∧ b ≠ 0x5D := by
  cases form with
  | null | true | false | negative | string => exact ⟨_, _, rfl, by decide, by decide⟩
  | number magnitude =>
    obtain ⟨b, tail, rfl, digit⟩ := magnitude.eq_cons
    exact ⟨b, tail, rfl, isBlank_of_isDigit digit, Reader.ne_of_isDigit digit (by decide)⟩
  | @bracket bracket =>
    cases bracket <;> exact ⟨_, _, rfl, by decide, by decide⟩

theorem ends_append_of_blank {lead : Bytes} (blank : Blank lead) (ends : Ends rest) :
    Ends (lead ++ rest) := by
  cases lead with
  | nil => exact ends
  | cons b lead =>
    rintro _ ⟨⟩
    have here := blank b List.mem_cons_self
    simp only [isBlank, Bool.or_eq_true, decide_eq_true_eq, or_assoc] at here
    rcases here with rfl | rfl | rfl | rfl <;> decide

/-- Behind a value in an array or object its form goes on with a blank, a comma or the closing
    bracket. -/
theorem Form.ends (form : Form (.inside bracket Bool.false) w) (rest : Bytes) :
    Ends (w ++ rest) := by
  cases form with
  | close blank =>
    rw [List.append_assoc]
    refine ends_append_of_blank blank ?_
    cases bracket <;> exact ends_of_mark (by decide) (by decide) (by decide) rest
  | next separated =>
    cases separated with
    | comma blank =>
      rw [List.append_assoc, List.append_assoc]
      exact ends_append_of_blank blank (ends_of_mark (by decide) (by decide) (by decide) _)

/-- The label of a value is passed, and then blanks at most stand before the value. -/
theorem behindKey_label {label : Bytes} (labelled : Label bracket label)
    (front : skipBlank bytes = skipBlank (label ++ rest)) :
    ∃ start, Reader.behindKey bracket bytes = .ok start ∧ skipBlank start = skipBlank rest := by
  cases labelled with
  | item blank => exact ⟨bytes, rfl, front.trans (skipBlank_append blank rest)⟩
  | @member lead key gap pad before content behind blank =>
    refine ⟨pad ++ rest, ?_, skipBlank_append blank rest⟩
    refine Reader.skipKey_eq_ok_iff.2 ⟨key ++ 0x22 :: (gap ++ 0x3A :: (pad ++ rest)), gap ++ 0x3A ::
      (pad ++ rest), ?_, skipString_append content _, ?_⟩
    · simp only [front, List.append_assoc, List.cons_append]
      rw [skipBlank_append before]
      exact skipBlank_of_isBlank (by decide) _
    · rw [skipBlank_append behind]
      exact skipBlank_of_isBlank (by decide) _

/-- What stands before a value in an array or object is passed. -/
theorem valueStart_append {separator label : Bytes} (separated : Separator first separator)
    (labelled : Label bracket label) (value : Form .value v) (rest : Bytes) :
    ∃ b tail start, skipBlank (separator ++ (label ++ (v ++ rest))) = b :: tail ∧
      b ≠ bracket.close ∧ Reader.valueStart bracket first b tail = .ok start ∧
      skipBlank start = skipBlank (v ++ rest) := by
  cases separated with
  | first =>
    obtain ⟨b, tail, front, other⟩ : ∃ b tail,
        skipBlank (label ++ (v ++ rest)) = b :: tail ∧ b ≠ bracket.close := by
      cases labelled with
      | item blank =>
        obtain ⟨b, tail, rfl, solid, other⟩ := value.eq_cons
        exact ⟨b, tail ++ rest, (skipBlank_append blank _).trans (skipBlank_of_isBlank solid _),
          other⟩
      | member before =>
        rw [List.append_assoc, skipBlank_append before]
        exact ⟨0x22, _, skipBlank_of_isBlank (by decide) _, by decide⟩
    obtain ⟨start, passed, behind⟩ :=
      behindKey_label labelled ((Reader.skipBlank_of_skipBlank front).trans front.symm)
    exact ⟨b, tail, start, front, other, passed, behind⟩
  | comma blank =>
    obtain ⟨start, passed, behind⟩ := behindKey_label labelled rfl
    refine ⟨0x2C, label ++ (v ++ rest), start, ?_, by cases bracket <;> decide, passed, behind⟩
    rw [List.append_assoc, skipBlank_append blank]
    exact skipBlank_of_isBlank (by decide) _

theorem spans_congr {bytes' : Bytes} (same : skipBlank bytes = skipBlank bytes')
    (spans : Spans .value bytes rest) : Spans .value bytes' rest := by
  have start : Reader.skipStart bytes = Reader.skipStart bytes' := by
    rw [Reader.skipStart, same, Reader.skipStart]
  cases spans with
  | scalar scalar => exact .scalar (start ▸ scalar)
  | bracket bracket inside => exact .bracket (start ▸ bracket) inside

theorem spans_magnitude {m : Bytes} (magnitude : Magnitude m) (ends : Ends rest) :
    Spans .value (m ++ rest) rest := by
  have passed := skipNumber_append magnitude ends
  obtain ⟨b, tail, rfl, digit⟩ := magnitude.eq_cons
  refine .scalar ?_
  rw [List.cons_append] at passed ⊢
  rw [Reader.skipStart, skipBlank_of_isBlank (isBlank_of_isDigit digit)]
  simp only
  rw [if_neg (Reader.ne_of_isDigit digit (by decide)),
    if_neg (Reader.ne_of_isDigit digit (by decide)),
    if_neg (Reader.ne_of_isDigit digit (by decide)),
    if_neg (Reader.ne_of_isDigit digit (by decide)), if_pos digit, passed]
  rfl

/-- Whatever has a form is passed, and nothing behind it, as long as a number at its end is not
    gone on with. -/
theorem Form.spans (form : Form part w) (ends : part = .value → Ends rest) :
    Spans part (w ++ rest) rest := by
  induction form generalizing rest with
  | null => exact .scalar (Reader.map_eq_ok_iff.2 ⟨rest, keyword_append nullTail rest, rfl⟩)
  | true => exact .scalar (Reader.map_eq_ok_iff.2 ⟨rest, keyword_append trueTail rest, rfl⟩)
  | false => exact .scalar (Reader.map_eq_ok_iff.2 ⟨rest, keyword_append falseTail rest, rfl⟩)
  | number magnitude => exact spans_magnitude magnitude (ends rfl)
  | negative magnitude =>
    exact .scalar (Reader.map_eq_ok_iff.2 ⟨rest, skipNumber_append magnitude (ends rfl), rfl⟩)
  | string content =>
    rw [List.cons_append, List.append_assoc]
    exact .scalar (Reader.map_eq_ok_iff.2 ⟨rest, skipString_append content rest, rfl⟩)
  | @bracket bracket w inside ih =>
    refine @Spans.bracket bracket _ _ _ ?_ (ih nofun)
    cases bracket <;> rfl
  | @close bracket first lead blank =>
    refine .close ?_
    rw [List.append_assoc, skipBlank_append blank]
    cases bracket <;> exact skipBlank_of_isBlank (by decide) _
  | @next bracket first separator label v w separated labelled value others ih ih' =>
    simp only [List.append_assoc]
    obtain ⟨b, tail, start, front, other, passed, behind⟩ :=
      valueStart_append separated labelled value (w ++ rest)
    exact .next front other passed (spans_congr behind.symm (ih fun _ => others.ends rest))
      (ih' nofun)

/-- Whatever has the form of a value is skipped. -/
theorem skipValue_append (form : Form .value w) (ends : Ends rest) :
    Reader.skipValue (w ++ rest) = .ok ((), rest) :=
  Reader.skipValue_of_spans (form.spans fun _ => ends)

/-! ## What is skipped -/

/-- A value inside an array or object that is passed has a place where it starts. -/
theorem exists_valueStart {rounds : ℕ} {outer : List Bracket} (front : skipBlank bytes = b :: tail)
    (more : b ≠ bracket.close)
    (passed : Reader.skipRounds (rounds + 1) (Part.inside bracket first).state (bracket :: outer)
      bytes = .ok rest) :
    ∃ start, Reader.valueStart bracket first b tail = .ok start := by
  cases first with
  | true =>
    rw [Part.state, Reader.skipRounds, front] at passed
    simp only [if_neg more] at passed
    rw [Reader.valueStart, if_pos rfl, Reader.behindKey]
    split_ifs at passed ⊢
    · cases key : Reader.skipKey (b :: tail) with
      | error fault =>
        rw [key] at passed
        cases passed
      | ok start => exact ⟨start, rfl⟩
    · exact ⟨_, rfl⟩
  | false =>
    rw [Part.state, Reader.skipRounds, front] at passed
    simp only [if_neg more] at passed
    rw [Reader.valueStart, if_neg Bool.false_ne_true, Reader.behindKey]
    split_ifs at passed ⊢
    · cases key : Reader.skipKey tail with
      | error fault =>
        rw [key] at passed
        cases passed
      | ok start => exact ⟨start, rfl⟩
    · exact ⟨_, rfl⟩

/-- What a skipped document takes in so many rounds: a part, and then what is left of the rounds
    goes on with the brackets outside it. -/
theorem exists_spans_of_skipRounds (part : Part) {rounds : ℕ} {outer : List Bracket}
    (passed : Reader.skipRounds rounds part.state (part.stack outer) bytes = .ok rest) :
    ∃ left spare, spare < rounds ∧ Spans part bytes left ∧
      Reader.skipRounds spare .complete outer left = .ok rest := by
  induction rounds using Nat.strongRecOn generalizing part bytes outer with
  | _ rounds ih =>
    cases rounds with
    | zero => cases passed
    | succ rounds =>
      cases part with
      | value =>
        rw [Part.state, Part.stack, Reader.skipRounds] at passed
        cases start : Reader.skipStart bytes with
        | error fault =>
          rw [start] at passed
          cases passed
        | ok found =>
          obtain ⟨opened, tail⟩ := found
          rw [start] at passed
          cases opened with
          | none => exact ⟨tail, rounds, Nat.lt_succ_self _, .scalar start, passed⟩
          | some bracket =>
            obtain ⟨left, spare, less, spans, others⟩ :=
              ih rounds (Nat.lt_succ_self _) (.inside bracket Bool.true) passed
            exact ⟨left, spare, Nat.lt_succ_of_lt less, .bracket start spans, others⟩
      | inside bracket first =>
        cases front : skipBlank bytes with
        | nil =>
          cases first <;>
          · rw [Part.state, Part.stack, Reader.skipRounds, front] at passed
            cases passed
        | cons b tail =>
          by_cases closing : b = bracket.close
          · subst closing
            rw [Part.stack, Reader.skipRounds_close front] at passed
            exact ⟨tail, rounds, Nat.lt_succ_self _, .close front, passed⟩
          · obtain ⟨start, begin⟩ := exists_valueStart front closing passed
            rw [Part.stack, Reader.skipRounds_next front closing begin] at passed
            obtain ⟨left, spare, less, head, more⟩ :=
              ih rounds (Nat.lt_succ_self _) .value passed
            obtain ⟨left', spare', less', others, done⟩ :=
              ih spare (Nat.lt_succ_of_lt less) (.inside bracket Bool.false) more
            exact ⟨left', spare', by omega, .next front closing begin head others, done⟩

/-- What is skipped is a value. -/
theorem spans_of_skipValue (passed : Reader.skipValue bytes = .ok ((), rest)) :
    Spans .value bytes rest := by
  obtain ⟨left, skipped, ⟨⟩⟩ := Reader.formed_bind_eq_ok_iff.1 passed
  obtain ⟨left, spare, -, spans, done⟩ := exists_spans_of_skipRounds .value skipped
  cases spare with
  | zero => cases done
  | succ spare =>
    cases done
    exact spans

theorem Label.blank_append {lead label : Bytes} (blank : Blank lead)
    (labelled : Label bracket label) : Label bracket (lead ++ label) := by
  cases labelled with
  | item blank' => exact .item (blank.append blank')
  | member before content behind blank' =>
    rw [← List.append_assoc]
    exact .member (blank.append before) content behind blank'

theorem Form.blank_append {lead : Bytes} (blank : Blank lead)
    (form : Form (.inside bracket first) w) : Form (.inside bracket first) (lead ++ w) := by
  cases form with
  | close blank' =>
    rw [← List.append_assoc]
    exact .close (blank.append blank')
  | next separated labelled value others =>
    rw [← List.append_assoc]
    cases separated with
    | first =>
      rw [List.append_nil, ← List.append_assoc, ← List.nil_append (lead ++ _ ++ _)]
      exact .next .first (labelled.blank_append blank) value others
    | comma blank' =>
      have longer := Form.next (.comma (blank.append blank')) labelled value others
      simpa only [List.append_assoc] using longer

/-- The label of a value that is passed. -/
theorem exists_label {start : Bytes} (passed : Reader.behindKey bracket bytes = .ok start) :
    ∃ before, bytes = before ++ start ∧ ∀ pad, Blank pad → Label bracket (before ++ pad) := by
  cases bracket with
  | list =>
    cases passed
    exact ⟨[], rfl, fun pad blank => .item blank⟩
  | object =>
    obtain ⟨key, behind, front, skipped, mark⟩ := Reader.skipKey_eq_ok_iff.1 passed
    obtain ⟨lead, before, rfl⟩ := exists_blank_of_skipBlank front
    obtain ⟨content, formed, rfl⟩ := skipString_eq_ok_iff.1 skipped
    obtain ⟨gap, blank, rfl⟩ := exists_blank_of_skipBlank mark
    refine ⟨lead ++ 0x22 :: (content ++ 0x22 :: (gap ++ [0x3A])), by simp, fun pad blank' => ?_⟩
    have labelled := Label.member before formed blank blank'
    simpa using labelled

/-- What is passed first: a scalar, or the bracket of an array or object. -/
theorem skipStart_cases {opened : Option Bracket}
    (start : Reader.skipStart bytes = .ok (opened, rest)) :
    ∃ lead, Blank lead ∧
      ((opened = none ∧ ∃ w, Form .value w ∧ bytes = lead ++ (w ++ rest)) ∨
        ∃ bracket, opened = some bracket ∧ bytes = lead ++ bracket.opening :: rest) := by
  obtain ⟨lead, blank, split⟩ := exists_blank bytes
  refine ⟨lead, blank, ?_⟩
  rw [Reader.skipStart] at start
  cases front : skipBlank bytes with
  | nil =>
    rw [front] at start
    cases start
  | cons b tail =>
    rw [front] at start split
    subst split
    simp only at start
    split_ifs at start with null true false minus digit quote list object
    · obtain ⟨_, word, ⟨⟩⟩ := Reader.map_eq_ok_iff.1 start
      exact .inl ⟨rfl, _, .null, by rw [null, eq_append_of_keyword word]; rfl⟩
    · obtain ⟨_, word, ⟨⟩⟩ := Reader.map_eq_ok_iff.1 start
      exact .inl ⟨rfl, _, .true, by rw [true, eq_append_of_keyword word]; rfl⟩
    · obtain ⟨_, word, ⟨⟩⟩ := Reader.map_eq_ok_iff.1 start
      exact .inl ⟨rfl, _, .false, by rw [false, eq_append_of_keyword word]; rfl⟩
    · obtain ⟨_, skipped, ⟨⟩⟩ := Reader.map_eq_ok_iff.1 start
      obtain ⟨m, magnitude, rfl⟩ := exists_magnitude skipped
      exact .inl ⟨rfl, _, .negative magnitude, by rw [minus]; rfl⟩
    · obtain ⟨_, skipped, ⟨⟩⟩ := Reader.map_eq_ok_iff.1 start
      obtain ⟨m, magnitude, split⟩ := exists_magnitude skipped
      exact .inl ⟨rfl, _, .number magnitude, by rw [split]⟩
    · obtain ⟨_, skipped, ⟨⟩⟩ := Reader.map_eq_ok_iff.1 start
      obtain ⟨c, content, rfl⟩ := skipString_eq_ok_iff.1 skipped
      exact .inl ⟨rfl, _, .string content, by rw [quote]; simp⟩
    · cases start
      exact .inr ⟨.list, rfl, by rw [list]; rfl⟩
    · cases start
      exact .inr ⟨.object, rfl, by rw [object]; rfl⟩

/-- What is passed has a form, with blanks before it. -/
theorem exists_form_of_spans (spans : Spans part bytes rest) :
    ∃ lead w, Blank lead ∧ Form part w ∧ bytes = lead ++ (w ++ rest) := by
  induction spans with
  | scalar start =>
    obtain ⟨lead, blank, ⟨-, w, form, split⟩ | ⟨bracket, other, -⟩⟩ := skipStart_cases start
    · exact ⟨lead, w, blank, form, split⟩
    · cases other
  | bracket start inside ih =>
    obtain ⟨lead, w, blank, form, rfl⟩ := ih
    obtain ⟨lead', blank', ⟨other, -⟩ | ⟨bracket, ⟨⟩, rfl⟩⟩ := skipStart_cases start
    · cases other
    · exact ⟨lead', _, blank', .bracket (form.blank_append blank), by simp⟩
  | close front =>
    obtain ⟨lead, blank, rfl⟩ := exists_blank_of_skipBlank front
    exact ⟨[], _, blank_nil, .close blank, by simp⟩
  | @next bracket first bytes b tail start left rest front more begin head others ih ih' =>
    obtain ⟨lead, v, blank, value, rfl⟩ := ih
    obtain ⟨lead', w, blank', form, rfl⟩ := ih'
    obtain ⟨lead'', blank'', rfl⟩ := exists_blank_of_skipBlank front
    have others := form.blank_append blank'
    unfold Reader.valueStart at begin
    split_ifs at begin with one comma
    · subst one
      obtain ⟨before, split, labelled⟩ := exists_label begin
      refine ⟨[], _, blank_nil,
        .next .first ((labelled lead blank).blank_append blank'') value others, ?_⟩
      rw [split]
      simp only [List.append_assoc, List.nil_append]
    · subst comma
      obtain rfl := Bool.not_eq_true _ ▸ one
      obtain ⟨before, rfl, labelled⟩ := exists_label begin
      refine ⟨[], _, blank_nil, .next (.comma blank'') (labelled lead blank) value others, ?_⟩
      simp only [List.append_assoc, List.cons_append, List.nil_append]

theorem form_value_iff :
    Form .value w ↔ w.head?.all (fun b => !isBlank b) ∧
      (Reader.skipValue w).toOption = some ((), []) := by
  rw [Outcome.toOption_eq_some_iff]
  constructor
  · intro form
    have skipped : Reader.skipValue (w ++ []) = .ok ((), []) := skipValue_append form nofun
    rw [List.append_nil] at skipped
    obtain ⟨b, tail, rfl, solid, -⟩ := form.eq_cons
    exact ⟨by simp [solid], skipped⟩
  · rintro ⟨solid, skipped⟩
    obtain ⟨lead, v, blank, form, rfl⟩ := exists_form_of_spans (spans_of_skipValue skipped)
    cases lead with
    | nil => rwa [List.nil_append, List.append_nil]
    | cons b lead =>
      have here := blank b List.mem_cons_self
      simp [here] at solid

instance (w : Bytes) : Decidable (Form .value w) := decidable_of_iff _ form_value_iff.symm

end HomeBus.Json
