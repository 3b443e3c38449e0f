import HomeBus.Topic
import Mathlib.Data.List.Forall2
import Mathlib.Logic.Function.Basic
import Mathlib.Tactic.Common

/-!
# What wildcards do to a filter

A filter without wildcards selects the topic with its own text and no other. A filter is widened by
turning levels into `+`, and then those from some place on into a single `#`; a `#` that stood at
the end has to be among these. A wider filter selects all that the narrower one did.

Results:
* `selects_iff_eq`: what a filter without wildcards selects.
* `selects_iff_widened`: the filters that select a topic are those that it can be widened to.
* `wider_filters_select_more`: no topic is lost when a filter is widened.
-/

namespace HomeBus.Topic

variable {f : List Char} {fs gs ts front back : List (List Char)} {filter topic : String}

/-! ## Level by level -/

theorem matchLevels_nil_iff : matchLevels [] ts = true ↔ ts = [] := by
  cases ts <;> simp [matchLevels]

theorem matchLevels_hash_iff : matchLevels (['#'] :: fs) ts = true ↔ fs = [] := by
  simp [matchLevels]

theorem matchLevels_cons_iff (plain : f ≠ ['#']) :
    matchLevels (f :: fs) ts = true ↔
      ∃ t rest, ts = t :: rest ∧ (f = ['+'] ∨ f = t) ∧ matchLevels fs rest = true := by
  cases ts <;> simp [matchLevels, plain]

/-! ## Filters without wildcards -/

/-- None of the levels of a filter is a wildcard. -/
def Literal (fs : List (List Char)) : Prop := ∀ level ∈ fs, level ≠ ['+'] ∧ level ≠ ['#']

theorem matchLevels_literal_iff (literal : Literal fs) : matchLevels fs ts = true ↔ ts = fs := by
  induction fs generalizing ts with
  | nil => exact matchLevels_nil_iff
  | cons f fs ih =>
    obtain ⟨⟨noPlus, noHash⟩, literal⟩ := List.forall_mem_cons.1 literal
    rw [matchLevels_cons_iff noHash]
    constructor
    · rintro ⟨t, rest, rfl, agrees, later⟩
      have same : f = t := agrees.resolve_left noPlus
      rw [same, (ih literal).1 later]
    · intro same
      exact ⟨f, fs, same, .inr rfl, (ih literal).2 rfl⟩

/-- A topic is known by its levels. -/
theorem levels_injective : Function.Injective levels := by
  intro topic topic' same
  have joined := congrArg (Text.joinWith '/') same
  rw [levels, levels, Text.joinWith_splitAt, Text.joinWith_splitAt] at joined
  exact String.toList_inj.1 joined

/-- A filter without wildcards selects the topic with its own text alone. -/
theorem selects_iff_eq (literal : Literal (levels filter)) :
    selects filter topic = true ↔ topic = filter :=
  (matchLevels_literal_iff literal).trans levels_injective.eq_iff

/-! ## Wider filters -/

/-- A level, as it was or turned into `+`; a `#` is not turned into anything. -/
inductive Loosened : List Char → List Char → Prop
  | same (level : List Char) : Loosened level level
  | plus {level : List Char} (plain : level ≠ ['#']) : Loosened level ['+']

/-- A filter that comes of another one by turning any of its levels but `#` into `+`, and then, or
    not, those from some place on into a single `#`, which leaves no `#` before it. -/
def Widened (fs gs : List (List Char)) : Prop :=
  ∃ loose, List.Forall₂ Loosened fs loose ∧
    (gs = loose ∨ ∃ front back, loose = front ++ back ∧ ['#'] ∉ front ∧ gs = front ++ [['#']])

/-- Turning levels into `+` loses no topic. -/
theorem matchLevels_loosened (loosened : List.Forall₂ Loosened fs gs)
    (selected : matchLevels fs ts = true) : matchLevels gs ts = true := by
  induction loosened generalizing ts with
  | nil => exact selected
  | @cons f g fs gs here rest ih =>
    cases here with
    | same =>
      by_cases hash : f = ['#']
      · -- the last level stays as it is, so the others are none
        subst hash
        obtain rfl := matchLevels_hash_iff.1 selected
        cases rest
        exact selected
      · obtain ⟨t, ts, rfl, agrees, later⟩ := (matchLevels_cons_iff hash).1 selected
        exact (matchLevels_cons_iff hash).2 ⟨t, ts, rfl, agrees, ih later⟩
    | plus plain =>
      obtain ⟨t, ts, rfl, -, later⟩ := (matchLevels_cons_iff plain).1 selected
      exact (matchLevels_cons_iff (by decide)).2 ⟨t, ts, rfl, .inl rfl, ih later⟩

/-- Turning the last levels into a single `#` loses no topic, even one that ends where they
    start. -/
theorem matchLevels_cut (free : ['#'] ∉ front) (selected : matchLevels (front ++ back) ts = true) :
    matchLevels (front ++ [['#']]) ts = true := by
  induction front generalizing ts with
  | nil => exact matchLevels_hash_iff.2 rfl
  | cons f front ih =>
    rw [List.mem_cons, not_or] at free
    have plain : f ≠ ['#'] := Ne.symm free.1
    obtain ⟨t, ts, rfl, agrees, later⟩ := (matchLevels_cons_iff plain).1 selected
    exact (matchLevels_cons_iff plain).2 ⟨t, ts, rfl, agrees, ih free.2 later⟩

theorem Widened.matchLevels (widened : Widened fs gs) (selected : matchLevels fs ts = true) :
    matchLevels gs ts = true := by
  obtain ⟨loose, loosened, rfl | ⟨front, back, rfl, free, rfl⟩⟩ := widened
  · exact matchLevels_loosened loosened selected
  · exact matchLevels_cut free (matchLevels_loosened loosened selected)

/-! ## Topics as filters -/

theorem widened_hash (fs : List (List Char)) : Widened fs [['#']] :=
  ⟨fs, List.forall₂_same.2 fun level _ => .same level, .inr ⟨[], fs, rfl, by simp, rfl⟩⟩

theorem Widened.cons {g : List Char} (here : Loosened f g) (plain : g ≠ ['#'])
    (widened : Widened fs gs) : Widened (f :: fs) (g :: gs) := by
  obtain ⟨loose, loosened, rfl | ⟨front, back, rfl, free, rfl⟩⟩ := widened
  · exact ⟨g :: gs, .cons here loosened, .inl rfl⟩
  · have still : ['#'] ∉ g :: front := by simp [free, Ne.symm plain]
    exact ⟨g :: (front ++ back), .cons here loosened, .inr ⟨g :: front, back, rfl, still, rfl⟩⟩

theorem widened_of_matchLevels (plain : ['#'] ∉ ts) (selected : matchLevels gs ts = true) :
    Widened ts gs := by
  induction gs generalizing ts with
  | nil =>
    obtain rfl := matchLevels_nil_iff.1 selected
    exact ⟨[], .nil, .inl rfl⟩
  | cons g gs ih =>
    by_cases hash : g = ['#']
    · subst hash
      obtain rfl := matchLevels_hash_iff.1 selected
      exact widened_hash ts
    · obtain ⟨t, ts, rfl, agrees, later⟩ := (matchLevels_cons_iff hash).1 selected
      rw [List.mem_cons, not_or] at plain
      have here : Loosened t g := by
        rcases agrees with rfl | rfl
        · exact .plus (Ne.symm plain.1)
        · exact .same g
      exact (ih plain.2 later).cons here hash

/-- The filters that select a topic without `#` are those that the topic itself, taken as a filter,
    can be widened to. -/
theorem selects_iff_widened (plain : ['#'] ∉ levels topic) :
    selects filter topic = true ↔ Widened (levels topic) (levels filter) := by
  constructor
  · intro selected
    exact widened_of_matchLevels plain selected
  · intro widened
    have itself : selects topic topic = true :=
      (selects_self_iff topic).2 fun early => plain (List.dropLast_subset _ early)
    exact widened.matchLevels itself

/-- A filter that is widened still selects every topic that it selected. -/
theorem wider_filters_select_more {wider : String}
    (widened : Widened (levels filter) (levels wider)) (topic : String)
    (selected : selects filter topic = true) : selects wider topic = true :=
  widened.matchLevels selected

/-- The levels that become `#` start where the topic ends, and the filter's own `#` is one of
    them. -/
theorem wider_filters_select_more_at_the_end :
    Widened (levels "a/b/#") (levels "+/b/#") ∧ selects "a/b/#" "a/b" = true ∧
      selects "+/b/#" "a/b" = true := by
  have widened : Widened (levels "a/b/#") (levels "+/b/#") := by
    refine ⟨[['+'], ['b'], ['#']], ?_, .inr ⟨[['+'], ['b']], [['#']], rfl, by decide, rfl⟩⟩
    exact .cons (.plus (by decide)) (.cons (.same _) (.cons (.same _) .nil))
  exact ⟨widened, by decide, wider_filters_select_more widened "a/b" (by decide)⟩

end HomeBus.Topic
