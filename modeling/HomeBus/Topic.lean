import HomeBus.Message.Basic
import HomeBus.Text.Split

/-!
# Topic filters

A filter selects topics level by level, the levels standing between slashes: `+` stands for any one
level, `#` at the end for all remaining ones, of which there may be none, and any other level for
itself. A `#` before the end selects nothing.

`MessageFilter` selects messages by topic filter, service and type.
-/

namespace HomeBus

namespace Topic

/-- The levels of a topic or filter. -/
def levels (topic : String) : List (List Char) := Text.splitAt '/' topic.toList

/-- Whether the levels of a filter select the levels of a topic. Models the loop of
    `topic::matches`. -/
def matchLevels : List (List Char) → List (List Char) → Bool
  | [], [] => true
  | [], _ :: _ => false
  | f :: fs, ts =>
    if f = ['#'] then fs.isEmpty
    else
      match ts with
      | [] => false
      | t :: ts => (f = ['+'] || f = t) && matchLevels fs ts

/-- Whether a filter selects a topic. Models `topic::matches`. -/
def selects (filter topic : String) : Bool := matchLevels (levels filter) (levels topic)

theorem matchLevels_self_iff (levels : List (List Char)) :
    matchLevels levels levels = true ↔ ['#'] ∉ levels.dropLast := by
  induction levels with
  | nil => simp [matchLevels]
  | cons f fs ih =>
    by_cases last : fs = []
    · subst last
      by_cases many : f = ['#'] <;> simp [matchLevels, many]
    · rw [List.dropLast_cons_of_ne_nil last, List.mem_cons, not_or, ← ih]
      by_cases many : f = ['#']
      · simp [matchLevels, many, last]
      · simp [matchLevels, many, Ne.symm many]

/-- A topic selects itself unless it has a `#` before its end. -/
theorem selects_self_iff (topic : String) :
    selects topic topic = true ↔ ['#'] ∉ (levels topic).dropLast :=
  matchLevels_self_iff _

end Topic

/-- Selects messages; a condition that is not given accepts all of them. -/
structure MessageFilter where
  topic : Option String := none
  service : Option String := none
  msgType : Option String := none
  deriving DecidableEq

namespace MessageFilter

/-- Whether a message that arrives on a topic is selected. Models `MessageFilter::matches`. -/
def selects (filter : MessageFilter) (topic : String) (m : Message) : Bool :=
  filter.topic.all (Topic.selects · topic) && filter.service.all (· == m.service) &&
    filter.msgType.all (· == m.msgType)

end MessageFilter

end HomeBus
