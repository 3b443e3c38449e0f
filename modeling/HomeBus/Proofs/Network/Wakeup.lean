import HomeBus.Proofs.Network.Waiters

/-!
# No reply is lost

On the hub every call is answered at once, so a request that goes on only waits for its reply. When
its entry is completed it sees the message from then on, whatever becomes of other requests and of
its deadline, and returns it when it is polled next.

Results:
* `Network.mem_ready_deliver`: a delivery that completes the entry of a request wakes it.
* `Network.returned_of_poll`: a request that sees a message returns it when it is polled.
* `Network.completed_request_returns`: a delivery that completes the entry of a request is what the
  request returns.
-/

namespace HomeBus.Network

variable {net : Network}

/-! ## Waking -/

theorem mem_ready_wake (net : Network) (job : Job) : job ∈ (net.wake job).ready := by
  unfold wake
  split
  · next mem => exact mem
  · exact List.mem_append_right _ (List.mem_singleton_self job)

theorem ready_subset_wake (net : Network) (job : Job) : net.ready ⊆ (net.wake job).ready := by
  unfold wake
  split
  · exact List.Subset.refl _
  · exact List.subset_append_left ..

/-- What can be run can still be run after tasks were woken. -/
theorem ready_subset_foldl (which : Task → Bool) (entries : List (Task × ℕ)) (net : Network) :
    net.ready ⊆ (entries.foldl (fun net entry =>
      if which entry.1 then net.wake (.poll entry.2) else net) net).ready := by
  induction entries generalizing net with
  | nil => exact List.Subset.refl _
  | cons entry rest ih =>
    refine List.Subset.trans ?_ (ih _)
    dsimp only
    split
    · exact ready_subset_wake net _
    · exact List.Subset.refl _

/-- The tasks of some kind can be run once they were woken. -/
theorem mem_ready_wakeTasks {i : ℕ} {task : Task} {which : Task → Bool}
    (here : net.tasks[i]? = some task) (chosen : which task = true) :
    .poll i ∈ (net.wakeTasks which).ready := by
  have mem : (task, i) ∈ net.tasks.zipIdx := List.mk_mem_zipIdx_iff_getElem?.2 here
  obtain ⟨before, after, split⟩ := List.append_of_mem mem
  rw [wakeTasks, split, List.foldl_append, List.foldl_cons, if_pos chosen]
  exact ready_subset_foldl which after _ (mem_ready_wake ..)

/-- A delivery that completes the entry of a request wakes the request. -/
theorem mem_ready_deliver {i session : ℕ} {task : RequestTask} {r : Running} {d : Dispatch}
    (here : net.request? i = some task) (running : task.state = .running r)
    (dispatched : net.dispatch? session = some d) (party : d.party = task.party)
    (completes : d.completes = some r.ticket) :
    .poll i ∈ (net.step (.deliver session)).ready := by
  have task_ : net.tasks[i]? = some (.request task) := request?_eq_some.1 here
  have awaited : awaits d.party r.ticket (.request task) = true := by
    simp [awaits, running, party]
  rw [step, deliver_of_dispatch dispatched, settleDispatch]
  rw [show (d.engine.dispatch d.delivery.topic d.delivery.payload).completed = some r.ticket from
    completes]
  refine ready_subset_foldl _ _ _ ?_
  have woken (engine : Engine) : .poll i ∈ ((Network.setEngine
      { net with hub := (net.hub.deliver session).1 } d.party engine).wakeTasks
        (awaits d.party r.ticket)).ready := mem_ready_wakeTasks task_ awaited
  split
  · exact woken _
  · exact woken _

/-! ## Requests whose entry was completed -/

/-- Whether a request returned a message. -/
def Returned (net : Network) (i : ℕ) (m : Message) : Prop :=
  ∃ task, net.request? i = some task ∧ task.state = .finished (.ok (some m))

/-- A request that is under way over the hub and not to be cancelled, and whose waiter sees a
    message. -/
structure Ready (net : Network) (i : ℕ) (task : RequestTask) (r : Running) (m : Message) :
    Prop where
  here : net.request? i = some task
  running : task.state = .running r
  onHub : net.OnHub task.party
  quiet : task.cancellable = true → task.cancelled = false
  sees : net.ledger.slot (task.holdAs r) = some (.answered m)

theorem Returned.step {i : ℕ} {m : Message} (h : net.Returned i m) (a : Action) :
    (net.step a).Returned i m := by
  obtain ⟨task, here, returned⟩ := h
  obtain ⟨cancelled, state, after, moves, -⟩ := exists_request_step here a
  refine ⟨_, after, ?_⟩
  rcases moves with rfl | ⟨underWay, -⟩
  · exact returned
  · rw [returned] at underWay
    cases underWay

/-- A request that sees a message returns it when it is polled, whatever its deadline is. -/
theorem returned_of_poll (regular : Regular net.correlation) {i : ℕ} {task : RequestTask}
    {r : Running} {m : Message} (h : net.Ready i task r m) (cancelFirst : Bool) :
    (net.step (.poll i cancelFirst)).Returned i m := by
  have listens : net.correlation.Listens task r :=
    ⟨h.onHub, (regular i task r h.here h.running).awaiting h.onHub⟩
  obtain ⟨t, table, slot⟩ := Option.map_eq_some_iff.1 h.sees
  have busy : ¬ net.correlation.Waits task r := by
    intro waits
    cases (waits t table).symm.trans slot
  have loud : ¬ (task.cancellable = true ∧ task.cancelled = true) := by
    rintro ⟨cancellable, cancelled⟩
    cases (h.quiet cancellable).symm.trans cancelled
  have look := look_poll h.here h.running cancelFirst
  rw [step]
  change ∃ task', (net.poll i cancelFirst).correlation.request i = some task' ∧ _
  generalize (net.poll i cancelFirst).correlation = c at look
  cases look with
  | goesOn _ _ waits => exact absurd (waits listens) busy
  | ends verdict =>
    rw [Correlation.request_close_self]
    cases verdict with
    | @replied t' m' table' slot' =>
      cases table.symm.trans table'
      cases slot.symm.trans slot'
      exact ⟨_, rfl, rfl⟩
    | @closed t' table' slot' =>
      cases table.symm.trans table'
      rcases slot' with slot' | slot'
      · cases slot.symm.trans slot'
      · cases slot.symm.trans slot'
    | expired _ waits => exact absurd (waits listens) busy
    | cancelled cancellable cancelled => exact absurd ⟨cancellable, cancelled⟩ loud
    | failed notDue => exact absurd listens notDue

/-- A delivery completes the entries of requests that wait. -/
theorem Completes.waits (c : net.ledger.Consistent) {session : ℕ} {h : Hold} {m : Message}
    {d : Dispatch} (comes : net.Completes session h m d) : net.ledger.slot h = some .waiting := by
  have table := comes.party ▸ table_of_dispatch comes.dispatched
  have taken := comes.completes
  rw [completes_eq comes.carries] at taken
  rw [Ledger.slot_of_table table, (c.sound table).waiting_of_complete _ _ _ taken]

/-- The waiter of a request whose entry is completed sees the message. -/
theorem Completes.sees (c : net.ledger.Consistent) {session : ℕ} {h : Hold} {m : Message}
    {d : Dispatch} (comes : net.Completes session h m d) :
    (net.step (.deliver session)).ledger.slot h = some (.answered m) := by
  have table := comes.party ▸ table_of_dispatch comes.dispatched
  have taken := comes.completes
  rw [completes_eq comes.carries] at taken
  rw [show (net.step (.deliver session)).ledger = net.ledger.setTable d.party _ from
    congrArg Correlation.ledger (correlation_deliver comes.dispatched comes.carries),
    Ledger.slot_setTable_self _ comes.party.symm, (c.sound table).slot_complete_of_eq _ _ _ taken]

/-- A request that sees a message goes on to do so until it is polled or dropped. -/
theorem Ready.step (c : net.ledger.Consistent) {i : ℕ} {task : RequestTask} {r : Running}
    {m : Message} (h : net.Ready i task r m) {a : Action} (kept : a ≠ .drop i)
    (unpolled : ∀ cancelFirst, a ≠ .poll i cancelFirst)
    (uncancelled : task.cancellable = true → a ≠ .cancel i) :
    ∃ cancelled, (net.step a).Ready i { task with cancelled, state := .running r } r m := by
  obtain ⟨cancelled, state, after, moves, cancels⟩ := exists_request_step h.here a
  obtain rfl : state = .running r := by
    rcases moves with rfl | ⟨-, -, eq | ⟨cancelFirst, eq⟩⟩
    · exact h.running
    · exact absurd eq kept
    · exact absurd eq (unpolled cancelFirst)
  have onHub : (net.step a).OnHub task.party := (congrFun (kind_step net a) _).trans h.onHub
  refine ⟨cancelled, after, rfl, onHub, fun cancellable => ?_, ?_⟩
  · rcases cancels with rfl | eq
    · exact h.quiet cancellable
    · exact absurd eq (uncancelled cancellable)
  · have hold : net.ledger.hold i = some (task.holdAs r) := hold_of_running h.here h.running
    rcases waiter_step c a (hold_of_running after rfl) with
      ⟨free, -⟩ | ⟨-, same | ⟨session, m', d, -, comes, -⟩⟩
    · cases free.symm.trans hold
    · exact same.trans h.sees
    · cases (comes.waits c).symm.trans h.sees

/-- A request that sees a message goes on to do so, or has returned it, in a run in which it is not
    dropped. -/
theorem Ready.run (c : net.ledger.Consistent) (regular : Regular net.correlation) {i : ℕ}
    {task : RequestTask} {r : Running} {m : Message} (h : net.Ready i task r m)
    (actions : List Action) (kept : .drop i ∉ actions)
    (uncancelled : task.cancellable = true → .cancel i ∉ actions) :
    ((∃ cancelFirst, .poll i cancelFirst ∈ actions) → (net.run actions).Returned i m) ∧
      ((∀ cancelFirst, .poll i cancelFirst ∉ actions) → ∃ cancelled,
        (net.run actions).Ready i { task with cancelled, state := .running r } r m) := by
  induction actions using List.reverseRecOn with
  | nil =>
    refine ⟨by simp, fun _ => ⟨task.cancelled, ?_⟩⟩
    rw [← h.running]
    exact h
  | append_singleton actions a ih =>
    rw [List.mem_append, List.mem_singleton, not_or] at kept
    have quiet (cancellable : task.cancellable = true) : .cancel i ∉ actions ∧ a ≠ .cancel i := by
      have away := uncancelled cancellable
      rw [List.mem_append, List.mem_singleton, not_or] at away
      exact ⟨away.1, Ne.symm away.2⟩
    obtain ⟨returned, ready⟩ := ih kept.1 fun cancellable => (quiet cancellable).1
    rw [run_concat]
    simp only [List.mem_append, List.mem_singleton, not_or]
    by_cases polled : ∃ cancelFirst, .poll i cancelFirst ∈ actions
    · refine ⟨fun _ => (returned polled).step a, fun unpolled => ?_⟩
      obtain ⟨cancelFirst, mem⟩ := polled
      exact absurd mem (unpolled cancelFirst).1
    · have early : ∀ cancelFirst, .poll i cancelFirst ∉ actions :=
        fun cancelFirst mem => polled ⟨cancelFirst, mem⟩
      obtain ⟨cancelled, ready⟩ := ready early
      refine ⟨?_, fun unpolled => ?_⟩
      · rintro ⟨cancelFirst, mem | rfl⟩
        · exact absurd mem (early cancelFirst)
        · exact returned_of_poll (regular_run regular actions) ready cancelFirst
      · obtain ⟨cancelled, ready⟩ := ready.step (consistent_run c actions) (Ne.symm kept.2)
          (fun cancelFirst => Ne.symm (unpolled cancelFirst).2)
          fun cancellable => (quiet cancellable).2
        exact ⟨cancelled, ready⟩

/--
A delivery over the hub that completes the entry of a request wakes it and decides what it returns,
unless it is dropped or a signal to cancel reaches it: the message that the delivery carries, the
next time that it is polled, whatever happens before to its deadline and to other requests.
-/
theorem completed_request_returns {net : Network} (initial : net.Initial) (before : List Action)
    {i session : ℕ} {task : RequestTask} {r : Running} {d : Dispatch}
    (here : (net.run before).request? i = some task) (running : task.state = .running r)
    (onHub : net.OnHub task.party) (quiet : task.cancellable = true → task.cancelled = false)
    (dispatched : (net.run before).dispatch? session = some d) (party : d.party = task.party)
    (completes : d.completes = some r.ticket) (after : List Action) (kept : .drop i ∉ after)
    (uncancelled : task.cancellable = true → .cancel i ∉ after) :
    ∃ m, d.Carries m ∧ .poll i ∈ ((net.run before).step (.deliver session)).ready ∧
      ((∃ cancelFirst, .poll i cancelFirst ∈ after) →
        (net.run (before ++ .deliver session :: after)).Returned i m) ∧
      ((∀ cancelFirst, .poll i cancelFirst ∉ after) →
        (net.run (before ++ .deliver session :: after)).isOver i = false ∧
        ∀ cancelFirst,
          ((net.run (before ++ .deliver session :: after)).step (.poll i cancelFirst)).Returned i m)
    := by
  obtain ⟨m, carries⟩ := exists_carries_of_completes completes
  have c := initial.consistent_run before
  have regular := regular_run initial.regular before
  have comes : (net.run before).Completes session (task.holdAs r) m d :=
    ⟨dispatched, carries, party, completes⟩
  -- the delivery makes the request's waiter see the message
  have ready : ((net.run before).step (.deliver session)).Ready i task r m := by
    have still := congrArg Correlation.request (correlation_deliver dispatched carries)
    refine ⟨(congrFun still i).trans here, running, ?_, quiet, ?_⟩
    · exact (congrFun ((kind_step _ _).trans (kind_run net before)) _).trans onHub
    · exact comes.sees c
  rw [run_append, run_cons]
  obtain ⟨returned, goesOn⟩ := ready.run (consistent_step c _) (regular_step regular _) after kept
    uncancelled
  have woken := mem_ready_deliver here running dispatched party completes
  refine ⟨m, carries, woken, returned, fun unpolled => ?_⟩
  obtain ⟨cancelled, ready⟩ := goesOn unpolled
  have regular := regular_run (regular_step regular (.deliver session)) after
  refine ⟨?_, fun cancelFirst => returned_of_poll regular ready cancelFirst⟩
  rw [isOver, ready.here]
  rfl

/-- The request of `loopback` gets its own message back, although its deadline is over when it is
    polled. -/
theorem returned_in_loopback :
    ∃ m, ((loopback.run (asking "a" ++ .deliver 1 :: [.elapse 20])).step (.poll 1 false)).Returned
      1 m := by
  obtain ⟨task, r, d, here, running, party, plain, dispatched, there, completes⟩ :
      ∃ task r d, (loopback.run (asking "a")).request? 1 = some task ∧ task.state = .running r ∧
        task.party = 0 ∧ task.cancellable = false ∧
        (loopback.run (asking "a")).dispatch? 1 = some d ∧ d.party = 0 ∧
        d.completes = some r.ticket :=
    ⟨_, _, _, rfl, rfl, rfl, rfl, rfl, rfl, by decide +kernel⟩
  have onHub : loopback.OnHub task.party := by
    rw [party]
    rfl
  obtain ⟨m, -, -, -, waits⟩ := completed_request_returns initial_loopback (asking "a") here running
    onHub (by simp [plain]) dispatched (there.trans party.symm) completes [.elapse 20] (by simp)
    (by simp [plain])
  exact ⟨m, (waits (by simp)).2 false⟩

end HomeBus.Network
