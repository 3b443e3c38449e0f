import HomeBus.Proofs.Network.Waiters

/-!
# Where replies come from

A request returns a message because a delivery that was dispatched while it was under way completed
its entry. That delivery fits what the request asked for, and answers no other request.

Results:
* `Network.answers_of_completes`: a delivery that completes an entry fits the request that holds it.
* `Network.replies_come_from_deliveries`: in every run each reply that was returned comes from a
  delivery of its own, and a delivery never completes the entry of a request that is over.
-/

namespace HomeBus

/-- A reply is accepted if it fits all that is asked for. -/
theorem Expectation.accepts_iff (e : Expectation) (strict : Bool) (topic : String) (m : Message) :
    e.accepts strict topic m = true ↔ topic = e.responseTopic ∧
      (e.service ≠ "" → m.service = e.service) ∧ (e.msgType ≠ "" → m.msgType = e.msgType) ∧
      (strict = true → m.corid = e.uid) := by
  have optional (asked given : String) :
      (asked == "" || asked == given) = true ↔ (asked ≠ "" → given = asked) := by
    rw [Bool.or_eq_true, beq_iff_eq, beq_iff_eq, or_iff_not_imp_left, eq_comm (a := given)]
  rw [accepts, Bool.and_eq_true, Bool.and_eq_true, Bool.and_eq_true, optional, optional, beq_iff_eq,
    eq_comm (a := topic), and_assoc, and_assoc]
  cases strict <;> simp

/-- The message that a request returned. -/
def RequestState.reply? : RequestState → Option Message
  | .finished (.ok reply) => reply
  | _ => none

theorem RequestState.eq_finished_of_reply? {state : RequestState} {m : Message}
    (h : state.reply? = some m) : state = .finished (.ok (some m)) := by
  unfold reply? at h
  split at h
  · rw [h]
  · cases h

namespace Network

variable {net : Network}

/-- The next delivery of a session, handed over now, answers a request that is under way: the
    message that it carries fits all that the request asked for and completes its entry. -/
structure Answers (net : Network) (session : ℕ) (d : Dispatch) (i : ℕ) (task : RequestTask)
    (r : Running) (m : Message) : Prop where
  /-- The request has the uid that it was made with, or one that it was given in its place. -/
  identified : ∃ id, r.message = task.message.ensureIdentity id
  dispatched : net.dispatch? session = some d
  carries : d.Carries m
  /-- The request was registered and is not over, before the delivery and after it. -/
  underWay : ∃ cancelled, net.request? i = some { task with cancelled, state := .running r } ∧
    (net.step (.deliver session)).request? i = some { task with cancelled, state := .running r }
  party : d.party = task.party
  completes : d.completes = some r.ticket
  topic : d.delivery.topic = task.responseTopic
  service : task.filter.service ≠ "" → m.service = task.filter.service
  msgType : task.filter.msgType ≠ "" → m.msgType = task.filter.msgType
  corid : d.engine.strict = true → m.corid = r.message.uid

/-- What answers a request does so whatever becomes of the request. -/
theorem Answers.moved {session i : ℕ} {d : Dispatch} {task : RequestTask} {r : Running}
    {m : Message} (h : net.Answers session d i task r m) (cancelled : Bool) (state : RequestState) :
    net.Answers session d i { task with cancelled, state } r m :=
  ⟨h.identified, h.dispatched, h.carries, h.underWay, h.party, h.completes, h.topic, h.service,
    h.msgType, h.corid⟩

/-- A delivery that completes the entry of a request fits the request. -/
theorem answers_of_completes (c : net.ledger.Consistent) (regular : Regular net.correlation)
    {session i : ℕ} {task : RequestTask} {r : Running} {m : Message} {d : Dispatch}
    (here : net.request? i = some task) (running : task.state = .running r)
    (completes : net.Completes session (task.holdAs r) m d) :
    net.Answers session d i task r m := by
  have hold := hold_of_running here running
  have same : { task with cancelled := task.cancelled, state := .running r } = task := by
    rw [← running]
  have still : (net.step (.deliver session)).request? i = some task := by
    rw [step, show (net.deliver session).request? = net.request? from congrArg
      Correlation.request (correlation_deliver completes.dispatched completes.carries), here]
  -- the entry that takes the message is the one that the request holds
  have taken := completes.completes
  rw [completes_eq completes.carries] at taken
  obtain ⟨⟨entry, mem, ticket, takes, -⟩, -⟩ := PendingTable.complete_eq_some _ _ _ taken
  obtain ⟨t, table, completed, listed⟩ := c.listed hold
  cases (completes.party ▸ table_of_dispatch completes.dispatched).symm.trans table
  cases (c.sound table).entry_unique_of_ticket mem listed ticket
  obtain ⟨topic, service, msgType, corid⟩ := (Expectation.accepts_iff ..).1 takes
  exact ⟨(regular i task r here running).identified, completes.dispatched, completes.carries,
    ⟨task.cancelled, same.symm ▸ here, same.symm ▸ still⟩, completes.party, completes.completes,
    topic, service, msgType, corid⟩

/-! ## Requests with a reply -/

/-- Whether a request returned a message, or its waiter sees one. -/
def Got (net : Network) (i : ℕ) (task : RequestTask) (m : Message) : Prop :=
  net.request? i = some task ∧ (task.state = .finished (.ok (some m)) ∨
    ∃ r, task.state = .running r ∧ net.ledger.slot (task.holdAs r) = some (.answered m))

/-- A request that returns a message when it is looked at saw it. -/
theorem slot_of_look {c c' : Correlation} {i : ℕ} {task task' : RequestTask} {r : Running}
    {cancelFirst : Bool} {due : Prop} {m : Message} (look : c.Look i task r cancelFirst due c')
    (after : c'.request i = some task') (returned : task'.state = .finished (.ok (some m))) :
    c.ledger.slot (task.holdAs r) = some (.answered m) := by
  cases look with
  | goesOn =>
    rw [Correlation.request_setRequest_self] at after
    cases after
    cases returned
  | ends verdict =>
    rw [Correlation.request_close_self] at after
    cases after
    cases returned
    cases verdict with
    | replied table slot => exact (Ledger.slot_of_table table).trans (congrArg some slot)

/-- A request that returned a message after a step did so before, or saw it. -/
theorem got_of_returned (c : net.ledger.Consistent) {a : Action} {i : ℕ} {task task' : RequestTask}
    {m : Message} (here : net.request? i = some task) (after : (net.step a).request? i = some task')
    (returned : task'.state = .finished (.ok (some m))) : net.Got i task m := by
  refine ⟨here, ?_⟩
  obtain ⟨cancelled, state, after', moves, -⟩ := exists_request_step here a
  rcases moves with same | ⟨-, -, cause⟩
  · cases after.symm.trans after'
    exact .inl (same ▸ returned)
  have effect := effect_step net a
  change (net.step a).correlation.request i = _ at after
  clear after'
  generalize (net.step a).correlation = c' at effect after
  rcases cause with rfl | ⟨cancelFirst, rfl⟩
  · cases effect with
    | idle =>
      cases here.symm.trans after
      exact .inl returned
    | discarded =>
      rw [Correlation.request_setRequest_self] at after
      cases after
      cases returned
    | dropped =>
      rw [Correlation.request_close_self] at after
      cases after
      cases returned
  · cases effect with
    | idle =>
      cases here.symm.trans after
      exact .inl returned
    | refused =>
      rw [Correlation.request_setRequest_self] at after
      cases after
      cases returned
    | @started _ _ other t _ here' fresh table absent look =>
      -- a request that was just registered has not got anything yet
      have seen := slot_of_look look after returned
      have waits := c.slot_enter_self table (e := other.expectation (net.uidOf other)) absent i
      cases waits.symm.trans seen
    | looked here' running look =>
      cases here.symm.trans here'
      exact .inr ⟨_, running, slot_of_look look after returned⟩

/-- A request that has a reply after a step had it before, or the step is the delivery that answers
    it. -/
theorem got_step (c : net.ledger.Consistent) (regular : Regular net.correlation) {a : Action}
    {i : ℕ} {task' : RequestTask} {m : Message}
    (got : (net.step a).Got i task' m) :
    (∃ task cancelled state, net.Got i task m ∧ task' = { task with cancelled, state }) ∨
      ∃ session d r, a = .deliver session ∧ net.Answers session d i task' r m := by
  obtain ⟨after, has⟩ := got
  -- the request was there before, since a new one has nothing
  obtain ⟨task, here⟩ : ∃ task, net.request? i = some task := by
    cases here : net.request? i with
    | some task => exact ⟨task, rfl⟩
    | none =>
      have fresh := request_step_of_none here after
      rcases has with returned | ⟨r, running, -⟩
      · cases fresh.symm.trans returned
      · cases fresh.symm.trans running
  obtain ⟨cancelled, state, after', -, -⟩ := exists_request_step here a
  have eq : task' = { task with cancelled, state } := Option.some.inj (after.symm.trans after')
  rcases has with returned | ⟨r, running, slot⟩
  · exact .inl ⟨task, cancelled, state, got_of_returned c here after returned, eq⟩
  · have hold := hold_of_running after running
    rcases waiter_step c a hold with ⟨-, waits⟩ | ⟨before, same | ⟨session, m', d, rfl, comes, seen⟩⟩
    · cases waits.symm.trans slot
    · obtain ⟨task₀, r₀, here₀, running₀, holds⟩ := exists_running_of_hold before
      cases here.symm.trans here₀
      refine .inl ⟨task, cancelled, state, ⟨here, .inr ⟨r₀, running₀, ?_⟩⟩, eq⟩
      rw [← holds, ← same]
      exact slot
    · cases seen.symm.trans slot
      obtain ⟨task₀, r₀, here₀, running₀, holds⟩ := exists_running_of_hold before
      cases here.symm.trans here₀
      rw [holds] at comes
      have answers := answers_of_completes c regular here running₀ comes
      subst eq
      exact .inr ⟨session, d, r₀, rfl, answers.moved cancelled state⟩

/-- Each reply in a run comes from a delivery. -/
theorem exists_answers_of_got (initial : net.Initial) (actions : List Action) {i : ℕ}
    {task : RequestTask} {m : Message} (got : (net.run actions).Got i task m) :
    ∃ k session d r, actions[k]? = some (.deliver session) ∧
      (net.run (actions.take k)).Answers session d i task r m := by
  induction actions using List.reverseRecOn generalizing task with
  | nil =>
    obtain ⟨here, -⟩ := got
    cases (initial.request i).symm.trans here
  | append_singleton actions a ih =>
    rw [run_concat] at got
    rcases got_step (initial.consistent_run actions) (regular_run initial.regular actions) got with
      ⟨before, cancelled, state, had, rfl⟩ | ⟨session, d, r, rfl, answers⟩
    · obtain ⟨k, session, d, r, at_, answers⟩ := ih had
      have lt : k < actions.length := (List.getElem?_eq_some_iff.1 at_).1
      refine ⟨k, session, d, r, by rwa [List.getElem?_append_left lt], ?_⟩
      rw [List.take_append_of_le_length (Nat.le_of_lt lt)]
      exact answers.moved cancelled state
    · refine ⟨actions.length, session, d, r, by simp, ?_⟩
      rwa [List.take_left']
      rfl

/-- A delivery answers at most one request. -/
theorem Answers.unique (c : net.ledger.Consistent) {session i j : ℕ} {d d' : Dispatch}
    {task task' : RequestTask} {r r' : Running} {m m' : Message}
    (h : net.Answers session d i task r m) (h' : net.Answers session d' j task' r' m') : i = j := by
  obtain ⟨_, here, -⟩ := h.underWay
  obtain ⟨_, here', -⟩ := h'.underWay
  cases h.dispatched.symm.trans h'.dispatched
  exact c.apart (hold_of_running here rfl) (hold_of_running here' rfl)
    (h.party.symm.trans h'.party) (Option.some.inj (h.completes.symm.trans h'.completes))

/-- A delivery never completes the entry of a request that is over. -/
theorem completes_ne_of_isOver (c : net.ledger.Consistent) {i : ℕ} {h : Hold}
    (hold : net.ledger.hold i = some h) (actions : List Action)
    (ended : (net.run actions).isOver i = true) {session : ℕ} {d : Dispatch}
    (dispatched : (net.run actions).dispatch? session = some d) (party : d.party = h.party) :
    d.completes ≠ some h.ticket := by
  intro completes
  obtain ⟨m, carries⟩ := exists_carries_of_completes completes
  rcases holds_or_spent_run c hold actions with hold | ⟨t, table, spent⟩
  · cases (hold_of_isOver ended).symm.trans hold
  · cases (party ▸ table_of_dispatch dispatched).symm.trans table
    rw [completes_eq carries] at completes
    have sound := (consistent_run c actions).sound table
    exact spent.2 (sound.waiting_of_complete _ _ _ completes)

/--
In every run, a request that returned a message got it from a delivery that was dispatched while the
request was under way and that fits it in all respects. No two requests got theirs from one
delivery, and no delivery completes the entry of a request that returned or was dropped before.
-/
theorem replies_come_from_deliveries {net : Network} (initial : net.Initial)
    (actions : List Action) :
    (∀ i task m, (net.run actions).request? i = some task →
      task.state = .finished (.ok (some m)) → ∃ k session d r,
        actions[k]? = some (.deliver session) ∧
          (net.run (actions.take k)).Answers session d i task r m) ∧
    (∀ k session d d' i j task task' r r' m m',
      (net.run (actions.take k)).Answers session d i task r m →
      (net.run (actions.take k)).Answers session d' j task' r' m' → i = j) ∧
    ∀ k i task r, (net.run (actions.take k)).request? i = some task → task.state = .running r →
      (net.run actions).isOver i = true → ∀ session d,
        (net.run actions).dispatch? session = some d → d.party = task.party →
        d.completes ≠ some r.ticket := by
  refine ⟨fun i task m here returned => exists_answers_of_got initial actions ⟨here, .inl returned⟩,
    fun k session d d' i j task task' r r' m m' h h' =>
      h.unique (initial.consistent_run _) h', fun k i task r here running ended session d => ?_⟩
  have hold := hold_of_running here running
  rw [← List.take_append_drop k actions, run_append] at ended ⊢
  exact completes_ne_of_isOver (initial.consistent_run _) hold _ ended

/-- The party of `loopback` makes a request and takes the reply. -/
def exchanging (uid : String) : List Action := asking uid ++ [.deliver 1, .poll 1 false]

/-- The request of `loopback` gets its own message back. -/
theorem reply_in_loopback : ∃ task m, (loopback.run (exchanging "a")).request? 1 = some task ∧
    task.state = .finished (.ok (some m)) ∧ ∃ k session d r,
      (exchanging "a")[k]? = some (.deliver session) ∧
        (loopback.run ((exchanging "a").take k)).Answers session d 1 task r m := by
  have replied : (((loopback.run (exchanging "a")).request? 1).bind (·.state.reply?)).isSome := by
    decide +kernel
  obtain ⟨m, got⟩ := Option.isSome_iff_exists.1 replied
  obtain ⟨task, here, reply⟩ := Option.bind_eq_some_iff.1 got
  have returned := RequestState.eq_finished_of_reply? reply
  exact ⟨task, m, here, returned,
    (replies_come_from_deliveries initial_loopback _).1 1 task m here returned⟩

end Network

end HomeBus
