import HomeBus.Topic
import Mathlib.Tactic.Common

/-!
# Which topics a filter selects

The filter and the topic are compared in lockstep, level by level. What that comes to is said here
by positions: a filter without `#` selects the topics of its own length, one with `#` at its end
those that have at least the levels before it, and one with `#` elsewhere none.

Results:
* `matchLevels_iff`: the rule for lists of levels.
* `selects_iff`: the rule for texts, and that a `#` before the end selects nothing.
-/

namespace HomeBus.Topic

/-! ## The rule -/

/-- The first `n` levels of a filter select those of a topic: each is `+` or the topic's own. -/
def SelectsFirst (n : ℕ) (fs ts : List (List Char)) : Prop :=
  ∀ i < n, fs[i]? = some ['+'] ∨ fs[i]? = ts[i]?

/-- A filter without `#` selects the topics with as many levels, level by level. -/
def SelectsWhole (fs ts : List (List Char)) : Prop :=
  ['#'] ∉ fs ∧ fs.length = ts.length ∧ SelectsFirst fs.length fs ts

/-- A filter with `#` at its last position and nowhere else selects the topics that have the levels
    before it. -/
def SelectsStart (fs ts : List (List Char)) : Prop :=
  ∃ n, fs.length = n + 1 ∧ (∀ i, fs[i]? = some ['#'] ↔ i = n) ∧ n ≤ ts.length ∧
    SelectsFirst n fs ts

variable {f t : List Char} {fs ts : List (List Char)} {n : ℕ}

/-! ## One level more -/

theorem selectsFirst_zero (fs ts : List (List Char)) : SelectsFirst 0 fs ts := by
  intro i hi
  omega

theorem selectsFirst_cons :
    SelectsFirst (n + 1) (f :: fs) (t :: ts) ↔ (f = ['+'] ∨ f = t) ∧ SelectsFirst n fs ts := by
  constructor
  · intro h
    have head := h 0 (by omega)
    have tail : SelectsFirst n fs ts := by
      intro i hi
      have here := h (i + 1) (by omega)
      simpa using here
    exact ⟨by simpa using head, tail⟩
  · rintro ⟨head, tail⟩ i hi
    cases i with
    | zero => simpa using head
    | succ i =>
      have here := tail i (by omega)
      simpa using here

theorem selectsWhole_cons (plain : f ≠ ['#']) :
    SelectsWhole (f :: fs) (t :: ts) ↔ (f = ['+'] ∨ f = t) ∧ SelectsWhole fs ts := by
  unfold SelectsWhole
  rw [List.length_cons, List.length_cons, selectsFirst_cons, List.mem_cons, not_or]
  constructor
  · rintro ⟨⟨-, free⟩, same, head, tail⟩
    exact ⟨head, free, by omega, tail⟩
  · rintro ⟨head, free, same, tail⟩
    exact ⟨⟨plain.symm, free⟩, by omega, head, tail⟩

theorem selectsStart_cons (plain : f ≠ ['#']) :
    SelectsStart (f :: fs) (t :: ts) ↔ (f = ['+'] ∨ f = t) ∧ SelectsStart fs ts := by
  constructor
  · rintro ⟨n, length, last, enough, first⟩
    -- The filter's first level is not its last one.
    obtain ⟨k, rfl⟩ : ∃ k, n = k + 1 := by
      cases n with
      | zero =>
        have here := (last 0).2 rfl
        exact absurd (by simpa using here) plain
      | succ k => exact ⟨k, rfl⟩
    obtain ⟨head, tail⟩ := selectsFirst_cons.1 first
    simp only [List.length_cons] at length enough
    refine ⟨head, k, by omega, fun i => ?_, by omega, tail⟩
    have here := last (i + 1)
    simpa using here
  · rintro ⟨head, n, length, last, enough, tail⟩
    refine ⟨n + 1, by simpa using length, fun i => ?_, by simpa using enough,
      selectsFirst_cons.2 ⟨head, tail⟩⟩
    cases i with
    | zero => simpa using plain
    | succ i => simpa using last i

/-- A `#` in front selects every topic if it is the only level. -/
theorem selectsStart_hash : SelectsStart (['#'] :: fs) ts ↔ fs = [] := by
  constructor
  · rintro ⟨n, length, last, -, -⟩
    have first := (last 0).1 rfl
    rw [List.length_cons, ← first] at length
    exact List.eq_nil_of_length_eq_zero (by omega)
  · rintro rfl
    refine ⟨0, rfl, fun i => ?_, Nat.zero_le _, selectsFirst_zero _ _⟩
    cases i <;> simp

theorem not_selectsWhole_hash : ¬SelectsWhole (['#'] :: fs) ts := by
  rintro ⟨free, -⟩
  exact free List.mem_cons_self

theorem not_selectsStart_nil : ¬SelectsStart [] ts := by
  rintro ⟨n, length, -⟩
  simp at length

theorem not_selectsStart_of_nil (plain : f ≠ ['#']) : ¬SelectsStart (f :: fs) [] := by
  rintro ⟨n, -, last, enough, -⟩
  have empty : n = 0 := Nat.le_zero.1 enough
  have first := (last 0).2 empty.symm
  exact plain (by simpa using first)

/-! ## All levels -/

/-- The comparison in lockstep follows the rule. -/
theorem matchLevels_iff (fs ts : List (List Char)) :
    matchLevels fs ts = true ↔ SelectsWhole fs ts ∨ SelectsStart fs ts := by
  induction fs generalizing ts with
  | nil =>
    cases ts with
    | nil =>
      have whole : SelectsWhole [] [] := ⟨by simp, rfl, selectsFirst_zero _ _⟩
      simp [matchLevels, whole]
    | cons t ts =>
      have whole : ¬SelectsWhole [] (t :: ts) := fun h => by simpa using h.2.1
      simp [matchLevels, whole, not_selectsStart_nil]
  | cons f fs ih =>
    -- The comparison ends at a `#`, even where the topic has no level left.
    by_cases hash : f = ['#']
    · subst hash
      simp [matchLevels, not_selectsWhole_hash, selectsStart_hash]
    · cases ts with
      | nil =>
        have whole : ¬SelectsWhole (f :: fs) [] := fun h => by simpa using h.2.1
        simp [matchLevels, hash, whole, not_selectsStart_of_nil hash]
      | cons t ts =>
        rw [selectsWhole_cons hash, selectsStart_cons hash, ← and_or_left, ← ih]
        simp [matchLevels, hash]

/-- A `#` before the last position is in neither case of the rule. -/
theorem not_selected_of_mem_dropLast (early : ['#'] ∈ fs.dropLast) (ts : List (List Char)) :
    ¬(SelectsWhole fs ts ∨ SelectsStart fs ts) := by
  rintro (⟨free, -⟩ | ⟨n, length, last, -⟩)
  · exact free (List.dropLast_subset fs early)
  · obtain ⟨i, hi, here⟩ := List.getElem_of_mem early
    rw [List.getElem_dropLast] at here
    rw [List.length_dropLast] at hi
    have position : i = n := (last i).1 (List.getElem?_eq_some_iff.2 ⟨by omega, here⟩)
    omega

/-- A filter selects a topic exactly if it has no `#` and agrees with all levels of the topic, or
    has a single `#` at its end and agrees with the topic's levels before that; one that has a `#`
    before its end selects no topic at all. -/
theorem selects_iff (filter topic : String) :
    (selects filter topic = true ↔
      SelectsWhole (levels filter) (levels topic) ∨ SelectsStart (levels filter) (levels topic)) ∧
    (['#'] ∈ (levels filter).dropLast → selects filter topic = false) := by
  have rule := matchLevels_iff (levels filter) (levels topic)
  refine ⟨rule, fun early => ?_⟩
  have refused := not_selected_of_mem_dropLast early (levels topic)
  rw [← rule, Bool.not_eq_true] at refused
  exact refused

/-- A `#` at the end also stands for no level at all. -/
example : selects "pt:j1/+/#" "pt:j1/mt:evt" = true := by decide

end HomeBus.Topic
