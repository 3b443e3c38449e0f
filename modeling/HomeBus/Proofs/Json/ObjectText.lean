import HomeBus.Proofs.Json.Locality

/-!
# Objects as they are written

The text of an object is taken apart into the texts of its members, down to every blank, so that
members can be taken out and put in.

Results:
* `exists_memberTexts`: an object that is folded over stands in the texts of its members.
* `toOption_foldMembers`: folding over an object is folding over the texts of its members, if what
  a member is read as depends on its own text alone.
-/

namespace HomeBus.Json

open Reader (keyStart foldMembers)

/-- A member of an object as it is written. -/
structure MemberText where
  lead : Bytes
  /-- What stands between the quotation marks of the key. -/
  key : Bytes
  gap : Bytes
  pad : Bytes
  value : Bytes
  trail : Bytes
  lead_blank : Blank lead
  key_content : Content key
  gap_blank : Blank gap
  pad_blank : Blank pad
  value_form : Form .value value
  trail_blank : Blank trail

namespace MemberText

/-- The text of a member behind its key, and what follows it. -/
def behind (text : MemberText) (rest : Bytes) : Bytes :=
  text.gap ++ 0x3A :: (text.pad ++ (text.value ++ (text.trail ++ rest)))

/-- The text of a member from its key on, and what follows it. -/
def named (text : MemberText) (rest : Bytes) : Bytes := text.key ++ 0x22 :: text.behind rest

theorem colon_behind (text : MemberText) (rest : Bytes) :
    Reader.colon (text.behind rest) = .ok (text.pad ++ (text.value ++ (text.trail ++ rest))) :=
  Reader.colon_eq_ok_iff.2
    ((skipBlank_append text.gap_blank _).trans (skipBlank_of_isBlank (by decide) _))

/-- The key of a member is read up to its end, and is read the same whatever follows. -/
theorem string_local {text : MemberText} {key : String} {rest left : Bytes}
    (read : string (text.named rest) = .ok (key, left)) :
    left = text.behind rest ∧ ∀ rest', string (text.named rest') = .ok (key, text.behind rest') := by
  obtain ⟨c, content, split, again⟩ := exists_content_of_string read
  have passed := skipString_append text.key_content (text.behind rest)
  rw [← named, split, skipString_append content] at passed
  obtain rfl := Except.ok.inj passed
  obtain rfl : text.key = c := List.append_cancel_right split
  exact ⟨rfl, fun rest' => again (text.behind rest')⟩

/-- A member without blanks. -/
def tight (key value : Bytes) (content : Content key) (form : Form .value value) : MemberText where
  lead := []
  key := key
  gap := []
  pad := []
  value := value
  trail := []
  lead_blank := blank_nil
  key_content := content
  gap_blank := blank_nil
  pad_blank := blank_nil
  value_form := form
  trail_blank := blank_nil

end MemberText

/-- The comma before a member that is not the first one. -/
def comma (first : Bool) : Bytes := if first then [] else [0x2C]

/-- The texts of members with commas between them and the closing brace, and what follows. -/
def memberTexts (first : Bool) : List MemberText → Bytes → Bytes
  | [], rest => 0x7D :: rest
  | text :: more, rest =>
    comma first ++ (text.lead ++ 0x22 :: text.named (memberTexts false more rest))

/-- An object as it is written, with the blanks around it. -/
structure ObjectText where
  lead : Bytes
  inner : Bytes
  members : List MemberText
  trail : Bytes
  lead_blank : Blank lead
  inner_blank : Blank inner
  trail_blank : Blank trail

namespace ObjectText

/-- An object without blanks but for those at its members. -/
def tight (members : List MemberText) : ObjectText where
  lead := []
  inner := []
  members := members
  trail := []
  lead_blank := blank_nil
  inner_blank := blank_nil
  trail_blank := blank_nil

def bytes (text : ObjectText) : Bytes :=
  text.lead ++ 0x7B :: (text.inner ++ memberTexts true text.members text.trail)

end ObjectText

/-! ## Taking an object apart -/

section

variable {σ : Type} {member : σ → String → Reader σ} {first : Bool} {rounds : ℕ}
  {state final : σ} {bytes rest lead : Bytes} {separator : Bytes}

theorem exists_comma (separated : Separator first separator) :
    ∃ lead, Blank lead ∧ separator = lead ++ comma first := by
  cases separated with
  | first => exact ⟨[], blank_nil, rfl⟩
  | comma blank => exact ⟨_, blank, rfl⟩

theorem separator_of_blank (first : Bool) (blank : Blank lead) :
    ∃ separator lead', Separator first separator ∧ Blank lead' ∧
      separator ++ lead' = lead ++ comma first := by
  cases first with
  | true => exact ⟨[], lead, .first, blank, (List.append_nil lead).symm⟩
  | false => exact ⟨_, [], .comma blank, blank_nil, List.append_nil _⟩

/-- An object that is folded over stands in the texts of its members. -/
theorem exists_memberTexts
    (h : ∀ state key behind next left, member state key behind = .ok (next, left) →
      ∃ start, Reader.colon behind = .ok start ∧ Reader.skipValue start = .ok ((), left))
    (read : foldMembers member first rounds state bytes = .ok (final, rest)) :
    ∃ lead texts, Blank lead ∧ bytes = lead ++ memberTexts first texts rest := by
  induction rounds generalizing first state bytes with
  | zero => cases read
  | succ rounds ih =>
    obtain ⟨front, -⟩ | ⟨b, tail, start, key, behind, next, left, front, -, begin, name, here,
      others⟩ := Reader.foldMembers_cases read
    · obtain ⟨lead, blank, rfl⟩ := exists_blank_of_skipBlank front
      exact ⟨lead, [], blank, rfl⟩
    · obtain ⟨trail, texts, trail_blank, rfl⟩ := ih others
      obtain ⟨value, colon, skipped⟩ := h _ _ _ _ _ here
      obtain ⟨pad, v, pad_blank, form, rfl⟩ := exists_form_of_spans (spans_of_skipValue skipped)
      obtain ⟨gap, gap_blank, rfl⟩ := exists_blank_of_skipBlank (Reader.colon_eq_ok_iff.1 colon)
      obtain ⟨key, content, rfl, -⟩ := exists_content_of_string name
      obtain ⟨separator, lead, separated, blank, rfl⟩ := exists_separator_of_keyStart front begin
      obtain ⟨before, before_blank, rfl⟩ := exists_comma separated
      refine ⟨before, ⟨lead, key, gap, pad, v, trail, blank, content, gap_blank, pad_blank, form,
        trail_blank⟩ :: texts, before_blank, ?_⟩
      rw [memberTexts, List.append_assoc]
      rfl

/-! ## Folding over member texts -/

/-- Behind a member stands nothing that a number goes on with. -/
theorem ends_memberTexts (blank : Blank lead) (texts : List MemberText) (rest : Bytes) :
    Ends (lead ++ memberTexts false texts rest) := by
  refine ends_append_of_blank blank ?_
  cases texts <;> exact ends_of_mark (by decide) (by decide) (by decide) _

/-- Folding over an object is folding over the texts of its members. -/
theorem toOption_foldMembers {take : σ → MemberText → Option σ}
    (h : ∀ state (text : MemberText) rest, Ends (text.trail ++ rest) →
      ((string (text.named rest)).toOption.bind fun name =>
          (member state name.1 name.2).toOption) =
        (take state text).map (·, text.trail ++ rest))
    {texts : List MemberText} (blank : Blank lead) (enough : texts.length < rounds) :
    (foldMembers member first rounds state (lead ++ memberTexts first texts rest)).toOption =
      (texts.foldlM take state).map (·, rest) := by
  induction texts generalizing first rounds state lead with
  | nil =>
    obtain ⟨rounds, rfl⟩ := Nat.exists_eq_succ_of_ne_zero (Nat.ne_zero_of_lt enough)
    rw [Reader.foldMembers_succ, memberTexts, skipBlank_append blank,
      skipBlank_of_isBlank (by decide)]
    rfl
  | cons text texts ih =>
    obtain ⟨rounds, rfl⟩ := Nat.exists_eq_succ_of_ne_zero (Nat.ne_zero_of_lt enough)
    obtain ⟨separator, between, separated, between_blank, split⟩ :=
      separator_of_blank first blank
    obtain ⟨b, tail, front, open_, begin⟩ := keyStart_append separated
      (between_blank.append text.lead_blank) (text.named (memberTexts false texts rest))
    have here := h state text _ (ends_memberTexts text.trail_blank texts rest)
    rw [Reader.foldMembers_succ, memberTexts, ← List.append_assoc, ← split,
      List.append_assoc separator, ← List.append_assoc between, front]
    simp only
    rw [if_neg open_, begin, Outcome.ok_bind, List.foldlM_cons]
    cases name : string (text.named (memberTexts false texts rest)) with
    | error fault =>
      rw [name] at here
      obtain none := Option.map_eq_none_iff.1 here.symm
      rw [none]
      rfl
    | ok found =>
      rw [name] at here
      simp only [Outcome.toOption_ok, Option.bind_some] at here
      rw [formed, Outcome.ok_bind, Outcome.toOption_bind, here]
      cases take state text with
      | none => rfl
      | some next => exact ih text.trail_blank (Nat.lt_of_succ_lt_succ enough)

end

theorem length_lt_memberTexts (first : Bool) (texts : List MemberText) (rest : Bytes) :
    texts.length < (memberTexts first texts rest).length := by
  induction texts generalizing first with
  | nil => exact Nat.succ_pos _
  | cons text texts ih =>
    have := ih false
    simp only [memberTexts, MemberText.named, MemberText.behind, List.length_append,
      List.length_cons]
    omega

end HomeBus.Json
