import HomeBus.Proofs.Network.Waiters

/-!
# Requests that return nothing

The waiter of a request that is under way is never let down: it waits or sees a message, whatever
other requests do to the table. So a request that returns nothing was cancelled, or has reached the
deadline that was fixed when it was registered.

Results:
* `Network.attended_run`: the waiter of a request under way waits or sees a message.
* `Network.fallsDue_of_running`: the deadline of a request is counted from its registration.
* `Network.empty_handed_only_when_due`: why a request returns nothing.
-/

namespace HomeBus

/-- Whether a waiter waits or sees a message. -/
def Ledger.Attended (l : Ledger) (h : Hold) : Prop :=
  l.slot h = some .waiting ∨ ∃ m, l.slot h = some (.answered m)

/-- A waiter that waits or sees a message has not been let down. -/
theorem Ledger.Attended.not_closed {l : Ledger} {h : Hold} {t : PendingTable} (a : l.Attended h)
    (table : l.table h.party = some t) : ¬ (t.slot h.ticket = .closed ∨ t.slot h.ticket = .gone) := by
  rw [Attended, slot_of_table table, Option.some.injEq] at a
  rcases a with waits | ⟨m, answered⟩
  · simp [waits]
  · rw [Option.some.injEq] at answered
    simp [answered]

namespace Correlation

section Look

variable {c c' : Correlation} {i : ℕ} {task task' : RequestTask} {r r' : Running}
  {cancelFirst : Bool} {due : Prop}

/-- A request that goes on when it is looked at keeps its deadline. -/
theorem deadline_of_look (look : c.Look i task r cancelFirst due c')
    (after : c'.request i = some task') (running : task'.state = .running r') :
    r'.deadline = r.deadline ∧ task'.timeout = task.timeout := by
  cases look with
  | goesOn =>
    rw [request_setRequest_self] at after
    cases after
    cases running
    exact ⟨rfl, rfl⟩
  | ends =>
    rw [request_close_self] at after
    cases after
    cases running

/-- A request whose waiter waits or sees a message returns nothing only if its deadline is reached
    or it is cancelled. -/
theorem cause_of_look (look : c.Look i task r cancelFirst due c')
    (attended : c.ledger.Attended (task.holdAs r)) (after : c'.request i = some task')
    (returned : task'.state = .finished (.ok none)) :
    task' = { task with state := .finished (.ok none) } ∧
      (r.deadline ≤ c.clock ∨ task.cancellable = true ∧ task.cancelled = true) := by
  cases look with
  | goesOn =>
    rw [request_setRequest_self] at after
    cases after
    cases returned
  | @ends result verdict =>
    rw [request_close_self] at after
    cases after
    obtain rfl : result = .ok none := by simpa using returned
    refine ⟨rfl, ?_⟩
    cases verdict with
    | closed table slot => exact absurd slot (attended.not_closed table)
    | expired late => exact .inl late
    | cancelled cancellable cancelled => exact .inr ⟨cancellable, cancelled⟩

end Look

end Correlation

namespace Network

variable {net : Network}

/-! ## Waiters of requests under way -/

theorem attended_step (c : net.ledger.Consistent)
    (attended : ∀ {i h}, net.ledger.hold i = some h → net.ledger.Attended h) (a : Action) {i : ℕ}
    {h : Hold} (hold : (net.step a).ledger.hold i = some h) : (net.step a).ledger.Attended h := by
  rcases waiter_step c a hold with ⟨-, waits⟩ | ⟨before, same | ⟨_, m, _, -, -, seen⟩⟩
  · exact .inl waits
  · unfold Ledger.Attended
    rw [same]
    exact attended before
  · exact .inr ⟨m, seen⟩

/-- The waiter of a request under way waits or sees a message. -/
theorem attended_run (initial : net.Initial) (actions : List Action) {i : ℕ} {h : Hold}
    (hold : (net.run actions).ledger.hold i = some h) : (net.run actions).ledger.Attended h := by
  induction actions using List.reverseRecOn generalizing i h with
  | nil =>
    obtain ⟨task, r, here, -⟩ := exists_running_of_hold hold
    cases (initial.request i).symm.trans here
  | append_singleton actions a ih =>
    rw [run_concat] at hold ⊢
    exact attended_step (initial.consistent_run actions) ih a hold

/-! ## Deadlines -/

/-- Whether a deadline is the one that a request got when it was registered in a run. -/
def FallsDue (net : Network) (actions : List Action) (i : ℕ) (task : RequestTask)
    (deadline : ℕ) : Prop :=
  ∃ j cancelFirst new, actions[j]? = some (.poll i cancelFirst) ∧
    (net.run (actions.take j)).admission? (.poll i cancelFirst) = some new ∧
    deadline = deadlineFrom (net.run (actions.take j)).clock task.timeout

theorem FallsDue.append {actions : List Action} {i : ℕ} {task : RequestTask} {deadline : ℕ}
    (h : net.FallsDue actions i task deadline) (more : List Action) :
    net.FallsDue (actions ++ more) i task deadline := by
  obtain ⟨j, cancelFirst, new, at_, registered, eq⟩ := h
  have lt : j < actions.length := (List.getElem?_eq_some_iff.1 at_).1
  have same : (actions ++ more).take j = actions.take j :=
    List.take_append_of_le_length (Nat.le_of_lt lt)
  refine ⟨j, cancelFirst, new, by rwa [List.getElem?_append_left lt], ?_⟩
  rw [same]
  exact ⟨registered, eq⟩

/-- A request that the last step of a run registers gets its deadline there. -/
theorem fallsDue_concat {actions : List Action} {i : ℕ} {cancelFirst : Bool} {new : Admission}
    (h : (net.run actions).admission? (.poll i cancelFirst) = some new) (task : RequestTask) :
    net.FallsDue (actions ++ [.poll i cancelFirst]) i task
      (deadlineFrom (net.run actions).clock task.timeout) := by
  have same : (actions ++ [Action.poll i cancelFirst]).take actions.length = actions :=
    List.take_left' rfl
  refine ⟨actions.length, cancelFirst, new, by simp, ?_⟩
  rw [same]
  exact ⟨h, rfl⟩

/-- A request that is under way after a step was so before and keeps its deadline, or the step
    registered it. -/
theorem running_step {a : Action} {i : ℕ} {task' : RequestTask} {r' : Running}
    (after : (net.step a).request? i = some task') (running : task'.state = .running r') :
    (∃ task r, net.request? i = some task ∧ task.state = .running r ∧ r'.deadline = r.deadline ∧
      task'.timeout = task.timeout) ∨
    ∃ cancelFirst new, a = .poll i cancelFirst ∧ net.admission? a = some new ∧
      r'.deadline = deadlineFrom net.clock task'.timeout := by
  cases here : net.request? i with
  | none => cases (request_step_of_none here after).symm.trans running
  | some task =>
    cases advances_step here after with
    | stays => exact .inl ⟨_, r', rfl, running, rfl, rfl⟩
    | signalled => exact .inl ⟨task, r', rfl, running, rfl, rfl⟩
    | dropped | refused => cases running
    | started eq fresh table absent look =>
      obtain ⟨deadline, timeout⟩ := Correlation.deadline_of_look look after running
      rw [← timeout] at deadline
      exact .inr ⟨_, _, eq, eq ▸ admission?_poll here fresh table absent _, deadline⟩
    | looked _ before look =>
      exact .inl ⟨task, _, rfl, before, Correlation.deadline_of_look look after running⟩

/-- The deadline of a request under way is counted from its registration. -/
theorem fallsDue_of_running (initial : net.Initial) (actions : List Action) {i : ℕ}
    {task : RequestTask} {r : Running} (here : (net.run actions).request? i = some task)
    (running : task.state = .running r) : net.FallsDue actions i task r.deadline := by
  induction actions using List.reverseRecOn generalizing task r with
  | nil => cases (initial.request i).symm.trans here
  | append_singleton actions a ih =>
    rw [run_concat] at here
    rcases running_step here running with
      ⟨before, r₀, here₀, running₀, deadline, timeout⟩ | ⟨cancelFirst, new, rfl, registered, deadline⟩
    · obtain ⟨j, cancelFirst, new, at_, registered, eq⟩ := (ih here₀ running₀).append [a]
      exact ⟨j, cancelFirst, new, at_, registered, by rw [deadline, eq, timeout]⟩
    · rw [deadline]
      exact fallsDue_concat registered task

/-! ## Requests that return nothing -/

/-- A request returns nothing when it is polled after some actions of a run: it was under way and
    is over with the next action, because it is cancelled or its deadline is reached. -/
structure GivesUp (net : Network) (actions : List Action) (k i : ℕ) (cancelFirst : Bool)
    (task : RequestTask) (deadline : ℕ) : Prop where
  polled : actions[k]? = some (.poll i cancelFirst)
  underWay : (net.run (actions.take k)).request? i = some task
  notOver : task.state.isOver = false
  returns : (net.run (actions.take (k + 1))).request? i =
    some { task with state := .finished (.ok none) }
  fallsDue : net.FallsDue (actions.take (k + 1)) i task deadline
  cause : deadline ≤ (net.run (actions.take k)).clock ∨
    task.cancellable = true ∧ task.cancelled = true

theorem GivesUp.append {actions : List Action} {k i : ℕ} {cancelFirst : Bool} {task : RequestTask}
    {deadline : ℕ} (h : net.GivesUp actions k i cancelFirst task deadline) (more : List Action) :
    net.GivesUp (actions ++ more) k i cancelFirst task deadline := by
  have lt : k < actions.length := (List.getElem?_eq_some_iff.1 h.polled).1
  have now : (actions ++ more).take k = actions.take k :=
    List.take_append_of_le_length (Nat.le_of_lt lt)
  have next : (actions ++ more).take (k + 1) = actions.take (k + 1) :=
    List.take_append_of_le_length lt
  refine ⟨by rw [List.getElem?_append_left lt, h.polled], ?_, h.notOver, ?_, ?_, ?_⟩
  · rw [now]
    exact h.underWay
  · rw [next]
    exact h.returns
  · rw [next]
    exact h.fallsDue
  · rw [now]
    exact h.cause

/-- A request that has returned nothing after the last step of a run had done so before, or gives up
    in that step. -/
theorem givesUp_concat (initial : net.Initial) {actions : List Action} {a : Action} {i : ℕ}
    {task' : RequestTask} (after : ((net.run actions).step a).request? i = some task')
    (returned : task'.state = .finished (.ok none)) :
    (net.run actions).request? i = some task' ∨
      ∃ cancelFirst task deadline, task' = { task with state := .finished (.ok none) } ∧
        net.GivesUp (actions ++ [a]) actions.length i cancelFirst task deadline := by
  have now : (actions ++ [a]).take actions.length = actions := List.take_left' rfl
  have next : net.run ((actions ++ [a]).take (actions.length + 1)) = (net.run actions).step a := by
    rw [List.take_of_length_le (by simp), run_concat]
  have whole : (actions ++ [a]).take (actions.length + 1) = actions ++ [a] :=
    List.take_of_length_le (by simp)
  -- a request that is polled gives up if it is looked at for one of these reasons
  have gives {cancelFirst : Bool} {task : RequestTask} {deadline : ℕ}
      (eq : a = .poll i cancelFirst) (here : (net.run actions).request? i = some task)
      (notOver : task.state.isOver = false)
      (ends : task' = { task with state := .finished (.ok none) })
      (due : net.FallsDue (actions ++ [a]) i task deadline)
      (cause : deadline ≤ (net.run actions).clock ∨
        task.cancellable = true ∧ task.cancelled = true) :
      net.GivesUp (actions ++ [a]) actions.length i cancelFirst task deadline := by
    refine ⟨by simp [eq], now.symm ▸ here, notOver, ?_, whole.symm ▸ due, now.symm ▸ cause⟩
    rw [next, after, ends]
  cases here : (net.run actions).request? i with
  | none => cases (request_step_of_none here after).symm.trans returned
  | some task =>
    cases advances_step here after with
    | stays => exact .inl rfl
    | signalled _ underWay =>
      rw [show task.state = .finished (.ok none) from returned] at underWay
      cases underWay
    | dropped | refused => cases returned
    | started eq fresh table absent look =>
      have waits := Ledger.Consistent.slot_enter_self (initial.consistent_run actions) table
        (e := task.expectation ((net.run actions).uidOf task)) absent i
      obtain ⟨ends, cause⟩ := Correlation.cause_of_look look (.inl waits) after returned
      refine .inr ⟨_, task, _, ends, gives eq here (by rw [fresh]; rfl) ends ?_ cause⟩
      subst eq
      exact fallsDue_concat (admission?_poll here fresh table absent _) task
    | looked eq running look =>
      have attended := attended_run initial actions (hold_of_running here running)
      obtain ⟨ends, cause⟩ := Correlation.cause_of_look look attended after returned
      refine .inr ⟨_, task, _, ends, gives eq here (by rw [running]; rfl) ends ?_ cause⟩
      exact (fallsDue_of_running initial actions here running).append _

/--
In every run, a request that returned nothing did so because it was cancelled, or because the clock
had reached the deadline that it got when it was registered. No waiter of a request under way is let
down: the channel that it waits on is never closed.
-/
theorem empty_handed_only_when_due {net : Network} (initial : net.Initial) (actions : List Action) :
    (∀ i task, (net.run actions).request? i = some task → task.state = .finished (.ok none) →
      ∃ k cancelFirst before deadline, task = { before with state := .finished (.ok none) } ∧
        net.GivesUp actions k i cancelFirst before deadline) ∧
    ∀ i task r, (net.run actions).request? i = some task → task.state = .running r →
      ∃ t, (net.run actions).table? task.party = some t ∧ (t.receive r.ticket).2 ≠ .closed := by
  refine ⟨fun i task here returned => ?_, fun i task r here running => ?_⟩
  · induction actions using List.reverseRecOn with
    | nil => cases (initial.request i).symm.trans here
    | append_singleton actions a ih =>
      rw [run_concat] at here
      rcases givesUp_concat initial here returned with
        before | ⟨cancelFirst, before, deadline, ends, gives⟩
      · obtain ⟨k, cancelFirst, earlier, deadline, ends, gives⟩ := ih before
        exact ⟨k, cancelFirst, earlier, deadline, ends, gives.append [a]⟩
      · exact ⟨actions.length, cancelFirst, before, deadline, ends, gives⟩
  · have attended := attended_run initial actions (hold_of_running here running)
    have listed := (initial.consistent_run actions).listed (hold_of_running here running)
    obtain ⟨t, table, -⟩ := listed
    have open_ : ¬ (t.slot r.ticket = .closed ∨ t.slot r.ticket = .gone) :=
      attended.not_closed table
    refine ⟨t, table, ?_⟩
    unfold PendingTable.receive
    cases slot : t.slot r.ticket <;> simp [slot] at open_ ⊢

/-- The reply to the request of `loopback` is still on its way when the deadline is reached, and the
    request gives up. -/
theorem empty_handed_in_loopback :
    ∃ task, (loopback.run (asking "a" ++ [.elapse 10, .poll 1 false])).request? 1 = some task ∧
      task.state = .finished (.ok none) ∧ ∃ k cancelFirst before deadline,
        task = { before with state := .finished (.ok none) } ∧
          loopback.GivesUp (asking "a" ++ [.elapse 10, .poll 1 false]) k 1 cancelFirst before
            deadline := by
  obtain ⟨task, here, returned⟩ :
      ∃ task, (loopback.run (asking "a" ++ [.elapse 10, .poll 1 false])).request? 1 = some task ∧
        task.state = .finished (.ok none) := ⟨_, rfl, rfl⟩
  exact ⟨task, here, returned,
    (empty_handed_only_when_due initial_loopback _).1 1 task here returned⟩

end Network

end HomeBus
