import Mathlib.Tactic.Common

/-!
# Steps that can fail

What is used of `Except` throughout: a sequence of steps succeeds when each of its steps does
(`bind_eq_ok_iff`), and what is left of a step when its error does not matter (`toOption`).
-/

namespace HomeBus.Outcome

variable {ε α β γ : Type}

/-- A sequence of two steps succeeds when both do. -/
theorem bind_eq_ok_iff {step : Except ε α} {next : α → Except ε β} {b : β} :
    (step >>= next) = .ok b ↔ ∃ a, step = .ok a ∧ next a = .ok b := by
  cases step with
  | ok a =>
    refine ⟨fun h => ⟨a, rfl, h⟩, ?_⟩
    rintro ⟨_, ⟨⟩, h⟩
    exact h
  | error e =>
    refine ⟨nofun, ?_⟩
    rintro ⟨_, ⟨⟩, _⟩

theorem ok_bind (a : α) (next : α → Except ε β) : (Except.ok a >>= next) = next a := rfl

theorem error_bind (e : ε) (next : α → Except ε β) : (Except.error e >>= next) = .error e := rfl

@[simp] theorem toOption_ok (a : α) : (Except.ok a : Except ε α).toOption = some a := rfl

@[simp] theorem toOption_error (e : ε) : (Except.error e : Except ε α).toOption = none := rfl

theorem toOption_eq_some_iff {step : Except ε α} {a : α} :
    step.toOption = some a ↔ step = .ok a := by
  cases step <;> simp

theorem toOption_eq_none_iff {step : Except ε α} :
    step.toOption = none ↔ ∃ e, step = .error e := by
  cases step <;> simp

/-- Steps that find the same agree up to their errors. -/
theorem toOption_congr {ε' : Type} {step : Except ε α} {other : Except ε' α}
    (h : ∀ a, step = .ok a ↔ other = .ok a) : step.toOption = other.toOption :=
  Option.ext fun a => by rw [toOption_eq_some_iff, toOption_eq_some_iff, h]

@[simp] theorem toOption_map (f : α → β) (step : Except ε α) :
    (step.map f).toOption = step.toOption.map f := by
  cases step <;> rfl

@[simp] theorem toOption_bind (step : Except ε α) (next : α → Except ε β) :
    (step >>= next).toOption = step.toOption.bind fun a => (next a).toOption := by
  cases step <;> rfl

/-- Folding over what is read of a list while it is read, or once all of it is. -/
theorem foldlM_map (read : α → Except ε β) (put : γ → β → γ) (state : γ) (list : List α) :
    list.foldlM (fun state a => (read a).map (put state)) state =
      (list.mapM read).map fun found => found.foldl put state := by
  induction list generalizing state with
  | nil => rfl
  | cons a rest ih =>
    rw [List.foldlM_cons, List.mapM_cons]
    cases read a with
    | error e => rfl
    | ok b =>
      refine (ih _).trans ?_
      simp only [bind, Except.bind]
      cases rest.mapM read <;> rfl

/-- Every entry of a list that was folded over was taken into account. -/
theorem exists_of_foldlM {step : γ → α → Except ε γ} {list : List α} {state final : γ}
    (done : list.foldlM step state = .ok final) {a : α} (mem : a ∈ list) :
    ∃ state next, step state a = .ok next := by
  induction list generalizing state with
  | nil => cases mem
  | cons head rest ih =>
    rw [List.foldlM_cons] at done
    obtain ⟨next, here, done⟩ := bind_eq_ok_iff.1 done
    rcases List.mem_cons.1 mem with rfl | mem
    · exact ⟨state, next, here⟩
    · exact ih done mem

end HomeBus.Outcome
