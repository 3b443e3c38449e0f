/-!
# Splitting and joining

A text is split into the parts between the occurrences of a mark; joining the parts with the mark
gives the text back, and splitting joined parts gives the parts back if the mark is in none of them.
-/

namespace HomeBus.Text

/-- The parts of a text between the marks; a text without a mark is a single part. -/
def splitAt (mark : Char) : List Char → List (List Char)
  | [] => [[]]
  | c :: rest =>
    if c = mark then [] :: splitAt mark rest
    else
      match splitAt mark rest with
      | [] => [[c]]
      | part :: parts => (c :: part) :: parts

/-- Parts with a mark between them. -/
def joinWith (mark : Char) : List (List Char) → List Char
  | [] => []
  | [part] => part
  | part :: next :: rest => part ++ mark :: joinWith mark (next :: rest)

theorem splitAt_ne_nil (mark : Char) : ∀ cs : List Char, splitAt mark cs ≠ []
  | [] => by simp [splitAt]
  | c :: rest => by
    unfold splitAt
    split
    · simp
    · split <;> simp

theorem joinWith_cons (mark : Char) (part : List Char) {parts : List (List Char)} (h : parts ≠ []) :
    joinWith mark (part :: parts) = part ++ mark :: joinWith mark parts := by
  cases parts with
  | nil => exact absurd rfl h
  | cons next rest => rfl

/-- Nothing is lost when a text is split. -/
theorem joinWith_splitAt (mark : Char) : ∀ cs : List Char, joinWith mark (splitAt mark cs) = cs
  | [] => rfl
  | c :: rest => by
    have ih := joinWith_splitAt mark rest
    unfold splitAt
    split
    · next h => rw [joinWith_cons mark [] (splitAt_ne_nil mark rest), ih, h]; rfl
    · split
      · next h => exact absurd h (splitAt_ne_nil mark rest)
      · next part parts h =>
        rw [h] at ih
        cases parts with
        | nil => rw [← ih]; rfl
        | cons next more => rw [← ih]; rfl

/-- No part holds the mark. -/
theorem not_mem_of_mem_splitAt {mark : Char} :
    ∀ {cs part : List Char}, part ∈ splitAt mark cs → mark ∉ part
  | [], part, h => by simp_all [splitAt]
  | c :: rest, part, h => by
    have ih : ∀ part ∈ splitAt mark rest, mark ∉ part := fun _ => not_mem_of_mem_splitAt
    unfold splitAt at h
    split at h
    · rcases List.mem_cons.1 h with rfl | h
      · simp
      · exact ih _ h
    · next differs =>
      split at h
      · next hs => exact absurd hs (splitAt_ne_nil mark rest)
      · next head tail hs =>
        rw [hs] at ih
        rcases List.mem_cons.1 h with rfl | h
        · simp only [List.mem_cons, not_or]
          exact ⟨Ne.symm differs, ih head (List.mem_cons_self ..)⟩
        · exact ih _ (List.mem_cons_of_mem _ h)

theorem splitAt_eq_singleton {mark : Char} : ∀ {part : List Char}, mark ∉ part →
    splitAt mark part = [part]
  | [], _ => rfl
  | c :: rest, h => by
    simp only [List.mem_cons, not_or] at h
    rw [splitAt, if_neg (Ne.symm h.1), splitAt_eq_singleton h.2]

theorem splitAt_append_cons {mark : Char} {rest : List Char} : ∀ {part : List Char},
    mark ∉ part → splitAt mark (part ++ mark :: rest) = part :: splitAt mark rest
  | [], _ => by simp [splitAt]
  | c :: part, h => by
    simp only [List.mem_cons, not_or] at h
    rw [List.cons_append, splitAt, if_neg (Ne.symm h.1), splitAt_append_cons h.2]

/-- Parts without the mark are found again. -/
theorem splitAt_joinWith {mark : Char} : ∀ {parts : List (List Char)}, parts ≠ [] →
    (∀ part ∈ parts, mark ∉ part) → splitAt mark (joinWith mark parts) = parts
  | [part], _, h => splitAt_eq_singleton (h part (List.mem_singleton_self ..))
  | part :: next :: rest, _, h => by
    rw [joinWith, splitAt_append_cons (h part (List.mem_cons_self ..)),
      splitAt_joinWith (List.cons_ne_nil next rest) fun p hp => h p (List.mem_cons_of_mem _ hp)]

end HomeBus.Text
